import ClusterBootstrap.Proofs.Run.Alike
import ClusterBootstrap.Proofs.Run.Payload

/-!
# What a run looks at

The control plane tells much about the state of the cluster, and the report keeps all of it.  But a run
looks at two things only: the endpoint's own uri, and which roles are known.  Everything else that is told
with them, and how it is told, makes no difference to what the run does and to what is printed of it.
-/

namespace ClusterBootstrap

open Net

/-- Two states of the cluster look the same to a run. -/
structure ClusterState.SameView (state other : ClusterState) : Prop where
  selfUri : other.selfUri = state.selfUri
  knownRoles : other.knownRoles = state.knownRoles

/-- From outside two runs cannot be told apart: they have sent the same, have come to the same end, and
print the same.  What they have learned differs only in the state of the cluster, which still looks the
same. -/
structure Indistinct (run other : Progress Network) : Prop where
  requests : other.plane.requests = run.plane.requests
  report : other.report = { run.report with clusterState := other.report.clusterState }
  clusterState :
    Option.Rel ClusterState.SameView run.report.clusterState other.report.clusterState
  exitCode : other.report.exitCode = run.report.exitCode
  printed : other.report.lines = run.report.lines

/-! ## The consumers of the state -/

section

variable {state other : ClusterState}

theorem ClusterState.SameView.locate_congr (h : state.SameView other) (nodes : List Node)
    (policy : FallbackPolicy) : locate nodes other policy = locate nodes state policy := by
  unfold locate
  rw [h.selfUri]

/-- The known roles are also shown, in the error about one that is not known. -/
theorem ClusterState.SameView.checkKnown_congr (h : state.SameView other) (roles : List String) :
    checkKnown roles other = checkKnown roles state := by
  unfold checkKnown ClusterState.knowsRole
  rw [h.knownRoles]

/-- Of the state only the uri is printed. -/
theorem lines_congr {report other : Report}
    (hReport : other = { report with clusterState := other.clusterState })
    (hState : Option.Rel ClusterState.SameView report.clusterState other.clusterState) :
    other.lines = report.lines := by
  have hUri : other.selfUri = report.selfUri := by
    unfold Report.selfUri
    generalize report.clusterState = state at hState
    generalize other.clusterState = otherState at hState
    cases hState with
    | none => rfl
    | some hView => exact hView.selfUri
  have hServers : other.serverLines = report.serverLines := by
    rw [hReport]
    rfl
  have hOutcome : other.outcomeLines = report.outcomeLines := by
    rw [hReport]
    rfl
  have hBootstrap : other.bootstrapLines = report.bootstrapLines := by
    unfold Report.bootstrapLines
    rw [hUri, hReport]
  rw [Report.lines, Report.lines, hServers, hBootstrap, hOutcome]

end

/-! ## Calls that get the same reply -/

section

variable {replies others : List Reply} {n : Nat} {network other : Network} {client : Client}

theorem Net.Network.Spent.attempt_congr (h : Network.Spent replies n network)
    (hOther : Network.Spent others n other) (hReply : others[n]? = replies[n]?)
    (address : String) (body : Option String) :
    (client.attempt address body other).1 = (client.attempt address body network).1 := by
  unfold Client.attempt
  cases Url.parse address with
  | error fault => rfl
  | ok url =>
    cases hSendable : url.isSendable with
    | false => simp [hSendable]
    | true =>
      simp [hSendable, Network.exchange_fst, h.upcoming_eq, hOther.upcoming_eq, hReply]

theorem Net.Network.Spent.probe_congr (h : Network.Spent replies n network)
    (hOther : Network.Spent others n other) (hReply : others[n]? = replies[n]?) :
    (client.probe other).answer = (client.probe network).answer := by
  rw [(probe_eq client other).1, (probe_eq client network).1, h.attempt_congr hOther hReply]

theorem Net.Network.Spent.interpret_congr {α : Type} {decode : Json → Except BootstrapError α}
    {records : α → List LogRecord} {hRecords : ∀ a, ∀ r ∈ records a, r.source = .client}
    (h : Network.Spent replies n network) (hOther : Network.Spent others n other)
    (hReply : others[n]? = replies[n]?) (operation : Wire.Operation) (span : Log.Span)
    (body : String) :
    (Client.interpret (client.execute operation span body other) decode records
        hRecords).answer =
      (Client.interpret (client.execute operation span body network) decode records
        hRecords).answer := by
  rw [(interpret_eq ..).1, (interpret_eq ..).1, (execute_eq ..).1, (execute_eq ..).1,
    h.attempt_congr hOther hReply]

end

/-! ## Replies that tell states that look the same -/

variable {settings : BootstrapSettings} {replies others : List Reply} {state otherState : ClusterState}

/-- Where the replies differ only in the one that tells the state of the cluster, and it looks the same,
runs are answered alike. -/
theorem alike_of_sameView {client : Client} (hRest : ∀ n, n ≠ 2 → others[n]? = replies[n]?)
    (hState : ∃ envelope,
      Carries replies 2 envelope ∧ Wire.decodeClusterState envelope = .ok state)
    (hOther : ∃ envelope,
      Carries others 2 envelope ∧ Wire.decodeClusterState envelope = .ok otherState)
    (hView : state.SameView otherState) :
    Alike (fun nodes others => others = nodes) ClusterState.SameView settings client.plane
      client.plane (.ofReplies replies) (.ofReplies others) := by
  constructor
  case probed =>
    rw [probed_plane, probed_plane]
    exact (spent_ofReplies replies).probe_congr (spent_ofReplies others) (hRest 0 (by decide))
  case listed =>
    intro hProbed
    refine agree_of_eq (fun _ => rfl) ?_
    rw [listed_plane, listed_plane]
    exact (spent_probed hProbed.usable replies).interpret_congr
      (spent_probed hProbed.usable others) (hRest 1 (by decide)) ..
  case observed =>
    -- what is answered was sent, so that the queries before have used one reply each
    intro nodes hListed
    obtain ⟨hProbeUrl, hApiUrl⟩ := hListed.usable
    rw [((answered hProbeUrl hApiUrl replies).observed state).mpr hState,
      ((answered hProbeUrl hApiUrl others).observed otherState).mpr hOther]
    exact .ok hView
  case located =>
    rintro _ nodes state otherState - rfl hSame
    exact agree_of_eq (fun _ => ⟨rfl, rfl⟩) (hSame.locate_congr nodes settings.fallback)
  case known =>
    intro state otherState hSame
    exact hSame.checkKnown_congr settings.roles
  case assigned =>
    intro nodes state located request hRequested
    obtain ⟨hProbeUrl, hApiUrl⟩ := hRequested.toListed.usable
    rw [assigned_plane, assigned_plane]
    exact (spent_observed hProbeUrl hApiUrl replies).interpret_congr
      (spent_observed hProbeUrl hApiUrl others) (hRest 3 (by decide)) ..

/-- Runs of one client that have done the same are not told apart, where the servers are the same. -/
theorem indistinct_of_same {client : Client}
    (hSame : Progress.Same (fun nodes others => others = nodes) ClusterState.SameView
      (bootstrap client.plane settings (.ofReplies replies))
      (bootstrap client.plane settings (.ofReplies others))) :
    Indistinct (bootstrap client.plane settings (.ofReplies replies))
      (bootstrap client.plane settings (.ofReplies others)) := by
  have hReport := hSame.report
  rw [hSame.servers] at hReport
  constructor
  case requests =>
    -- neither peer has received anything before
    rw [requests_bootstrap client settings rfl, requests_bootstrap client settings rfl, hSame.calls]
    rfl
  case report => exact hReport
  case clusterState => exact hSame.clusterState
  case exitCode =>
    rw [hReport]
    rfl
  case printed => exact lines_congr hReport hSame.clusterState

/-- Of the reply that tells the state of the cluster a run looks only at the endpoint's own uri and at the
set of roles: with any other reply that tells the same of these, the same is sent, reported and printed.
This holds for all settings; where they are refused, both runs are refused with the same error. -/
theorem connect_indistinct (settings : BootstrapSettings)
    (hRest : ∀ n, n ≠ 2 → others[n]? = replies[n]?)
    (hState : ∃ envelope,
      Carries replies 2 envelope ∧ Wire.decodeClusterState envelope = .ok state)
    (hOther : ∃ envelope,
      Carries others 2 envelope ∧ Wire.decodeClusterState envelope = .ok otherState)
    (hView : state.SameView otherState) :
    Agree Indistinct (connect settings (.ofReplies replies))
      (connect settings (.ofReplies others)) := by
  rcases exists_client_or_connect_eq_error settings with ⟨client, hValid, hClient⟩ | ⟨e, hError⟩
  · have hAlike : Alike _ _ settings client.plane client.plane _ _ :=
      alike_of_sameView hRest hState hOther hView
    have hIndistinct := indistinct_of_same (hAlike.bootstrap_same rfl)
    rw [connect_eq hValid hClient, connect_eq hValid hClient]
    -- the record of the client comes before both runs
    exact .ok ⟨hIndistinct.requests, hIndistinct.report, hIndistinct.clusterState,
      hIndistinct.exitCode, hIndistinct.printed⟩
  · rw [hError, hError]
    exact .error e

/-- The replies to the default settings, but that the state of the cluster comes with an error status and
is told in other words: the role twice, and more that no run looks at. -/
def wordyReplies : List Reply :=
  let text := "\x7b\"data\":\x7b\"cluster\":\x7b\"age\":1,\"failover\":true," ++
    "\"known_roles\":[\"key-value\",\"key-value\"]\x7d\x7d\x7d"
  plainReplies.set 2 (.answered ⟨500⟩ (Json.bytesOf text) .whole)

/-- The runs with these replies report different states and are not told apart. -/
theorem connect_wordyReplies :
    ∃ run other, connect .default (.ofReplies plainReplies) = .ok run ∧
      connect .default (.ofReplies wordyReplies) = .ok other ∧ Indistinct run other ∧
      run.report.phase = .done ∧ other.report.clusterState ≠ run.report.clusterState := by
  have hView : ClusterState.SameView
      { selfUri := "", selfUuid := "", failover := .disabled, knownRoles := .ofList ["key-value"]
        canBootstrapVshard := false, vshardBucketCount := 0 }
      { selfUri := "", selfUuid := "", failover := .eventual, knownRoles := .ofList ["key-value"]
        canBootstrapVshard := false, vshardBucketCount := 0 } :=
    ⟨rfl, rfl⟩
  have hRest : ∀ n, n ≠ 2 → wordyReplies[n]? = plainReplies[n]? := by
    intro n hOther
    exact List.getElem?_set_ne hOther.symm
  have hAgree := connect_indistinct .default hRest favourable_plainReplies.clusterState
    (exists_carries_of_read rfl (by decide +kernel)) hView
  obtain ⟨run, hRun, hPhase⟩ := favourable_plainReplies.exists_done connectable_default
  rw [hRun] at hAgree
  obtain ⟨other, hOther, hIndistinct⟩ := hAgree.exists_ok
  refine ⟨run, other, hRun, hOther, hIndistinct, hPhase, ?_⟩
  have hDiffers : ((connect .default (.ofReplies wordyReplies)).toOption.map
      fun p => p.report.clusterState) ≠
        ((connect .default (.ofReplies plainReplies)).toOption.map
          fun p => p.report.clusterState) := by
    decide +kernel
  rw [hRun, hOther] at hDiffers
  simpa [Except.toOption] using hDiffers

end ClusterBootstrap
