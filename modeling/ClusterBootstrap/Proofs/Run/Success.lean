import ClusterBootstrap.Proofs.Client.Answers
import ClusterBootstrap.Proofs.Run.Location
import ClusterBootstrap.Proofs.Run.Path
import ClusterBootstrap.Run.Connect

/-!
# When a run over the network succeeds

The replies of the peer decide how a run over the network ends, and only four of them count.
-/

namespace ClusterBootstrap

open Net

/-- A run over the network can be made: the settings are valid, they make a client, and requests can be
sent to its two addresses. -/
structure Connectable (settings : BootstrapSettings) : Prop where
  valid : settings.validate = .ok ()
  client : ∃ client, Client.ofSettings settings.client = .ok client
  probeUrl : Url.Usable settings.client.probeUrl
  apiUrl : Url.Usable settings.client.apiUrl

/-- The replies with which a run comes to its goal: one that tells success, one that lists these
servers, one that tells this state of the cluster, and one that accepts the assignment. -/
structure Favourable (settings : BootstrapSettings) (replies : List Reply) (nodes : List Node)
    (state : ClusterState) : Prop where
  probe : Succeeds replies 0
  servers : ∃ envelope, Carries replies 1 envelope ∧ Wire.decodeServers envelope = .ok nodes
  nonempty : nodes ≠ []
  clusterState : ∃ envelope,
    Carries replies 2 envelope ∧ Wire.decodeClusterState envelope = .ok state
  node : (∃ node ∈ nodes, node.uri = state.selfUri) ∨ settings.fallback = .firstNode
  roles : ∀ role ∈ settings.roles, role ∈ state.knownRoles.names
  /-- Whatever the two members hold, the result must be there and the error list must not. -/
  assignment : ∃ members data,
    Carries replies 3 (.object members) ∧ members.lookup "data" = some (.object data) ∧
      (data.lookup "join_server").isSome ∧ members.lookup "errors" = none

variable {settings : BootstrapSettings} {replies : List Reply} {client : Client}

/-! ## The run and its client -/

theorem settings_of_ofSettings {clientSettings : ClientSettings}
    (hClient : Client.ofSettings clientSettings = .ok client) :
    client.settings = clientSettings := by
  -- behind the check of the settings, the client is made with them or not at all
  obtain ⟨-, -, hMade⟩ := bind_eq_ok_iff.mp hClient
  split at hMade
  · cases hMade
    rfl
  · cases hMade

/-- A run over the network is the run of the client, with one record before it. -/
theorem connect_eq {network : Network} (hValid : settings.validate = .ok ())
    (hClient : Client.ofSettings settings.client = .ok client) :
    connect settings network =
      .ok { bootstrap client.plane settings network with
        log := Client.openingRecord settings.client ::
          (bootstrap client.plane settings network).log } := by
  simp only [connect, hValid, hClient]
  rfl

/-- Only settings that make a client lead to a run. -/
theorem exists_client_of_connect {network : Network} {progress : Progress Network}
    (hRun : connect settings network = .ok progress) :
    ∃ client, settings.validate = .ok () ∧ Client.ofSettings settings.client = .ok client ∧
      progress.report = (bootstrap client.plane settings network).report ∧
      progress.plane = (bootstrap client.plane settings network).plane := by
  obtain ⟨_, hChecked, hClient⟩ := bind_eq_ok_iff.mp hRun
  obtain ⟨client, hMade, hMakes⟩ := bind_eq_ok_iff.mp hClient
  refine ⟨client, mapError_eq_ok_iff.mp hChecked, hMade, ?_⟩
  cases hMakes
  exact ⟨rfl, rfl⟩

/-- Settings that make no client end every run in the same way. -/
theorem exists_client_or_connect_eq_error (settings : BootstrapSettings) :
    (∃ client, settings.validate = .ok () ∧ Client.ofSettings settings.client = .ok client) ∨
      ∃ e, ∀ network, connect settings network = .error e := by
  cases hValid : settings.validate with
  | error fault =>
    refine .inr ⟨fault.toError, fun network => ?_⟩
    rw [connect, hValid]
    rfl
  | ok =>
    cases hClient : Client.ofSettings settings.client with
    | error e =>
      refine .inr ⟨e, fun network => ?_⟩
      rw [connect, hValid, hClient]
      rfl
    | ok client => exact .inl ⟨client, rfl, rfl⟩

/-! ## Four replies -/

theorem probed_plane (start : Network) : client.plane.probed start = client.probe start := by
  rw [ControlPlane.probed, Client.plane]

theorem listed_plane (start : Network) :
    client.plane.listed start = client.servers (client.plane.probed start).next := by
  rw [ControlPlane.listed, Client.plane]

theorem observed_plane (start : Network) :
    client.plane.observed start = client.clusterState (client.plane.listed start).next := by
  rw [ControlPlane.observed, Client.plane]

theorem assigned_plane (start : Network) (request : AssignmentRequest) :
    client.plane.assigned start request =
      client.assign request (client.plane.observed start).next := by
  rw [ControlPlane.assigned, Client.plane]

/-- The queries of a run over the network use one reply each, and are answered by it. -/
structure Answered (client : Client) (replies : List Reply) : Prop where
  probed : (client.plane.probed (.ofReplies replies)).answer = .ok () ↔ Succeeds replies 0
  listed : ∀ nodes, (client.plane.listed (.ofReplies replies)).answer = .ok nodes ↔
    ∃ envelope, Carries replies 1 envelope ∧ Wire.decodeServers envelope = .ok nodes
  observed : ∀ state, (client.plane.observed (.ofReplies replies)).answer = .ok state ↔
    ∃ envelope, Carries replies 2 envelope ∧ Wire.decodeClusterState envelope = .ok state
  assigned : ∀ request result,
    (client.plane.assigned (.ofReplies replies) request).answer = .ok result ↔
      ∃ envelope, Carries replies 3 envelope ∧ Wire.classify envelope = result

section

variable (hProbeUrl : Url.Usable client.settings.probeUrl)
  (hApiUrl : Url.Usable client.settings.apiUrl)

include hProbeUrl

theorem spent_probed (replies : List Reply) :
    Network.Spent replies 1 (client.plane.probed (.ofReplies replies)).next := by
  rw [probed_plane]
  exact ((spent_ofReplies replies).probe hProbeUrl).2

include hApiUrl

theorem spent_listed (replies : List Reply) :
    Network.Spent replies 2 (client.plane.listed (.ofReplies replies)).next := by
  rw [listed_plane]
  exact ((spent_probed hProbeUrl replies).servers hApiUrl).2

theorem spent_observed (replies : List Reply) :
    Network.Spent replies 3 (client.plane.observed (.ofReplies replies)).next := by
  rw [observed_plane]
  exact ((spent_listed hProbeUrl hApiUrl replies).clusterState hApiUrl).2

/-- Each call starts where the one before it has left the network. -/
theorem answered (replies : List Reply) : Answered client replies where
  probed := by
    rw [probed_plane]
    exact ((spent_ofReplies replies).probe hProbeUrl).1
  listed := by
    rw [listed_plane]
    exact ((spent_probed hProbeUrl replies).servers hApiUrl).1
  observed := by
    rw [observed_plane]
    exact ((spent_listed hProbeUrl hApiUrl replies).clusterState hApiUrl).1
  assigned request := by
    rw [assigned_plane]
    exact ((spent_observed hProbeUrl hApiUrl replies).assign hApiUrl request).1

end

theorem Connectable.answered (hConnectable : Connectable settings)
    (hClient : Client.ofSettings settings.client = .ok client) (replies : List Reply) :
    Answered client replies := by
  have hSettings := settings_of_ofSettings hClient
  exact ClusterBootstrap.answered (hSettings ▸ hConnectable.probeUrl)
    (hSettings ▸ hConnectable.apiUrl) replies

theorem knowsRole_iff {state : ClusterState} {role : String} :
    state.knowsRole role = true ↔ role ∈ state.knownRoles.names :=
  RoleSet.contains_iff

/-- Favourable replies lead a run through all its gates. -/
theorem Favourable.completes {nodes : List Node} {state : ClusterState}
    (hAnswered : Answered client replies) (hValid : settings.validate = .ok ())
    (hFavourable : Favourable settings replies nodes state) :
    ∃ located request result,
      Completes client.plane settings (.ofReplies replies) nodes state located request result := by
  obtain ⟨located, hLocated⟩ :=
    exists_locate_iff.mpr ⟨hFavourable.nonempty, hFavourable.node⟩
  obtain ⟨members, data, hCarries, hEnvelope⟩ := hFavourable.assignment
  have hAccepted := accepted_classify_iff.mpr ⟨members, data, rfl, hEnvelope⟩
  have hRoles := BootstrapSettings.roles_ne_nil hValid
  refine ⟨located, ⟨located.node, settings.roles, hRoles⟩, Wire.classify (.object members), ?_⟩
  exact
    { valid := hValid
      probe := hAnswered.probed.mpr hFavourable.probe
      servers := (hAnswered.listed nodes).mpr hFavourable.servers
      clusterState := (hAnswered.observed state).mpr hFavourable.clusterState
      location := hLocated
      known := fun role hMem => knowsRole_iff.mpr (hFavourable.roles role hMem)
      node := rfl
      roles := rfl
      answer := (hAnswered.assigned _ _).mpr ⟨_, hCarries, rfl⟩
      accepted := hAccepted }

/-- Only favourable replies do. -/
theorem Completes.favourable {nodes : List Node} {state : ClusterState} {located : Located}
    {request : AssignmentRequest} {result : AssignmentResult}
    (hAnswered : Answered client replies)
    (hCompletes :
      Completes client.plane settings (.ofReplies replies) nodes state located request result) :
    Favourable settings replies nodes state := by
  obtain ⟨hNonempty, hChoice⟩ := exists_locate_iff.mp ⟨located, hCompletes.location⟩
  obtain ⟨envelope, hCarries, rfl⟩ := (hAnswered.assigned _ _).mp hCompletes.answer
  obtain ⟨members, data, rfl, hEnvelope⟩ := accepted_classify_iff.mp hCompletes.accepted
  constructor
  case probe => exact hAnswered.probed.mp hCompletes.probe
  case servers => exact (hAnswered.listed nodes).mp hCompletes.servers
  case nonempty => exact hNonempty
  case clusterState => exact (hAnswered.observed state).mp hCompletes.clusterState
  case node => exact hChoice
  case roles => exact fun role hMem => knowsRole_iff.mp (hCompletes.known role hMem)
  case assignment => exact ⟨members, data, hCarries, hEnvelope⟩

/-! ## The end of a run -/

/-- Where a run can be made, favourable replies lead it to its goal. -/
theorem Favourable.exists_done {nodes : List Node} {state : ClusterState}
    (hFavourable : Favourable settings replies nodes state) (hConnectable : Connectable settings) :
    ∃ progress, connect settings (.ofReplies replies) = .ok progress ∧
      progress.report.phase = .done := by
  obtain ⟨client, hClient⟩ := hConnectable.client
  have hAnswered := hConnectable.answered hClient replies
  obtain ⟨_, _, _, hCompletes⟩ := hFavourable.completes hAnswered hConnectable.valid
  exact ⟨_, connect_eq hConnectable.valid hClient, hCompletes.phase_eq⟩

/-- A run over the network reaches its goal, with the exit code that tells so, exactly when the replies
are favourable.  With all others it fails, and so does its exit code. -/
theorem connect_done_iff (replies : List Reply) (hConnectable : Connectable settings) :
    ∃ progress, connect settings (.ofReplies replies) = .ok progress ∧
      (progress.report.phase = .done ∧ progress.report.exitCode = 0 ↔
        ∃ nodes state, Favourable settings replies nodes state) ∧
      ((¬ ∃ nodes state, Favourable settings replies nodes state) →
        progress.report.phase = .failed ∧ progress.report.exitCode = 1) := by
  obtain ⟨client, hClient⟩ := hConnectable.client
  have hAnswered := hConnectable.answered hClient replies
  refine ⟨_, connect_eq hConnectable.valid hClient, ?_⟩
  dsimp only [Report.exitCode, Report.isSuccess]
  -- a run fails at a gate or passes them all, and the replies tell which
  rcases exists_failsAt_or_completes client.plane settings (.ofReplies replies) with
    ⟨gate, e, hFails⟩ | ⟨nodes, state, _, _, _, hCompletes⟩
  · have hPhase := hFails.phase_eq
    -- favourable replies would have led through all gates
    have hNone : ¬ ∃ nodes state, Favourable settings replies nodes state := by
      rintro ⟨nodes, state, hFavourable⟩
      obtain ⟨_, _, _, hCompletes⟩ := hFavourable.completes hAnswered hConnectable.valid
      cases hPhase.symm.trans hCompletes.phase_eq
    simp [hPhase, hNone]
  · have hPhase := hCompletes.phase_eq
    have hSome : ∃ nodes state, Favourable settings replies nodes state :=
      ⟨nodes, state, hCompletes.favourable hAnswered⟩
    simp [hPhase, hSome]

/-! ## A run that succeeds -/

/-- What a complete reply is read as, it carries. -/
theorem exists_carries_of_read {α : Type} {n : Nat} {status : Status} {body : List UInt8} {a : α}
    {decode : Json → Except BootstrapError α}
    (hReply : replies[n]? = some (.answered status body .whole))
    (hRead : (Json.parseBytes body).toOption.bind (fun envelope => (decode envelope).toOption) =
      some a) :
    ∃ envelope, Carries replies n envelope ∧ decode envelope = .ok a := by
  cases hParse : Json.parseBytes body with
  | error e => simp [hParse, Except.toOption] at hRead
  | ok envelope =>
    refine ⟨envelope, ⟨status, body, hReply, hParse⟩, ?_⟩
    cases hDecode : decode envelope with
    | error e => simp [hParse, hDecode, Except.toOption] at hRead
    | ok b => simpa [hParse, hDecode, Except.toOption] using hRead

/-- Four replies to the default settings: one server is listed, and it does not name itself. -/
def plainReplies : List Reply :=
  ["", "\x7b\"data\":\x7b\"serverList\":[\x7b\"uri\":\"a:1\"\x7d]\x7d\x7d",
    "\x7b\"data\":\x7b\"cluster\":\x7b\"known_roles\":[\"key-value\"]\x7d\x7d\x7d",
    "\x7b\"data\":\x7b\"join_server\":null\x7d\x7d"].map fun text =>
      .answered .ok (Json.bytesOf text) .whole

theorem favourable_plainReplies :
    Favourable .default plainReplies [.ofUri "a:1"]
      { selfUri := "", selfUuid := "", failover := .disabled, knownRoles := .ofList ["key-value"]
        canBootstrapVshard := false, vshardBucketCount := 0 } where
  probe := ⟨_, _, _, rfl, rfl⟩
  servers := exists_carries_of_read rfl (by decide +kernel)
  nonempty := List.cons_ne_nil _ _
  clusterState := exists_carries_of_read rfl (by decide +kernel)
  node := .inr rfl
  roles := by decide
  assignment := by
    have hRead : ∃ envelope, Carries plainReplies 3 envelope ∧
        Except.ok (Wire.classify envelope).accepted = .ok true :=
      exists_carries_of_read rfl (by decide +kernel)
    obtain ⟨envelope, hCarries, hAccepted⟩ := hRead
    obtain ⟨members, data, rfl, hEnvelope⟩ := accepted_classify_iff.mp (Except.ok.inj hAccepted)
    exact ⟨members, data, hCarries, hEnvelope⟩

theorem connectable_default : Connectable .default :=
  ⟨rfl, ⟨_, rfl⟩, by decide +kernel, by decide +kernel⟩

/-- With these the default settings lead to the goal. -/
theorem connect_plainReplies :
    Connectable .default ∧
      ∃ progress, connect .default (.ofReplies plainReplies) = .ok progress ∧
        progress.report.phase = .done ∧ progress.report.exitCode = 0 := by
  obtain ⟨progress, hRun, hIff, -⟩ := connect_done_iff plainReplies connectable_default
  exact ⟨connectable_default, progress, hRun, hIff.mpr ⟨_, _, favourable_plainReplies⟩⟩

end ClusterBootstrap
