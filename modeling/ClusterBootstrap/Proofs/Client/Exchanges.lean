import ClusterBootstrap.Proofs.Client.Faults

/-!
# What one exchange comes to

The four calls look at different parts of an exchange.  A probe looks at the status and stops there.  An
operation needs the whole body, and from then on only the text of the body counts: neither the status nor
what had arrived of a body that broke off plays a part.
-/

namespace ClusterBootstrap

open Net

variable {client : Client} {network other : Network}

/-! ## The probe -/

theorem isSuccess_iff {status : Status} :
    status.isSuccess = true ↔ 200 ≤ status.code ∧ status.code < 300 := by
  rw [Status.isSuccess, Bool.and_eq_true, decide_eq_true_eq, decide_eq_true_eq]

theorem probe_eq_ok_iff (hUsable : Url.Usable client.settings.probeUrl) :
    (client.probe network).answer = .ok () ↔
      ∃ status body completion, network.upcoming = .sent (.answered status body completion) ∧
        200 ≤ status.code ∧ status.code < 300 := by
  obtain ⟨url, hMade⟩ := exists_attempt_eq client hUsable
  simp only [← isSuccess_iff]
  rw [(probe_eq client network).1, hMade, ← exists_probeAnswer_made_iff, map_eq_ok_iff]
  exact exists_congr fun status => and_iff_left rfl

/-- A probe tells and logs nothing but its verdict. -/
theorem probe_congr
    (hVerdict : client.probeAnswer (client.attempt client.settings.probeUrl none other).1 =
      client.probeAnswer (client.attempt client.settings.probeUrl none network).1) :
    (client.probe other).answer = (client.probe network).answer ∧
      (client.probe other).log = (client.probe network).log := by
  simp only [Client.probe]
  -- the two attempts are named in the hypothesis as in the goal
  revert hVerdict
  rcases client.attempt client.settings.probeUrl none other with ⟨otherAttempt, otherNext⟩
  rcases client.attempt client.settings.probeUrl none network with ⟨attempt, next⟩
  intro hVerdict
  dsimp only at hVerdict ⊢
  rw [hVerdict]
  cases client.probeAnswer attempt with
  | ok status => exact ⟨rfl, rfl⟩
  | error e => exact ⟨rfl, rfl⟩

/-- Behind the status nothing is read, so that neither the body counts nor how it ends. -/
theorem probe_eq_of_status (hUsable : Url.Usable client.settings.probeUrl) {status : Status}
    {body otherBody : List UInt8} {completion otherCompletion : Completion}
    (h : network.upcoming = .sent (.answered status body completion))
    (hOther : other.upcoming = .sent (.answered status otherBody otherCompletion)) :
    (client.probe other).answer = (client.probe network).answer ∧
      (client.probe other).log = (client.probe network).log := by
  obtain ⟨url, hMade⟩ := exists_attempt_eq client hUsable
  apply probe_congr
  rw [hMade, hMade, h, hOther]
  rfl

/-! ## Operations -/

/-- What an operation makes of an exchange. -/
inductive Judged {α : Type} (client : Client) (operation : Wire.Operation)
    (decode : Json → Except BootstrapError α) : Exchange → Except BootstrapError α → Prop where
  /-- What does not arrive completely is never looked at. -/
  | incomplete {exchange : Exchange} {message : String}
      (hIncomplete : ∀ status body, exchange ≠ .sent (.answered status body .whole)) :
    Judged client operation decode exchange
      (.error (.transport client.settings.endpoint message))
  | unreadable {status : Status} {body : List UInt8} {fault : Json.SyntaxError}
      (hText : Json.parseBytes body = .error fault) :
    Judged client operation decode (.sent (.answered status body .whole))
      (.error (.malformed operation.name
        ("HTTP " ++ status.text ++ " with non-JSON body: " ++ fault.text)))
  /-- The status is not an argument of the answer. -/
  | read {status : Status} {body : List UInt8} {envelope : Json}
      (hText : Json.parseBytes body = .ok envelope) :
    Judged client operation decode (.sent (.answered status body .whole)) (decode envelope)

variable {α : Type} {operation : Wire.Operation} {decode : Json → Except BootstrapError α}

/-- A whole body that is a JSON text leaves one answer. -/
theorem Judged.eq_decode {status : Status} {body : List UInt8} {envelope : Json}
    {answer : Except BootstrapError α}
    (h : Judged client operation decode (.sent (.answered status body .whole)) answer)
    (hText : Json.parseBytes body = .ok envelope) : answer = decode envelope := by
  cases h with
  | incomplete hIncomplete => exact absurd rfl (hIncomplete status body)
  | unreadable hFault => cases hFault.symm.trans hText
  | read hOther =>
    cases hOther.symm.trans hText
    rfl

theorem judged_interpret {records : α → List LogRecord}
    {hRecords : ∀ a, ∀ r ∈ records a, r.source = .client}
    (hUsable : Url.Usable client.settings.apiUrl) (span : Log.Span) (body : String) :
    Judged client operation decode network.upcoming
      (Client.interpret (client.execute operation span body network) decode records
        hRecords).answer := by
  obtain ⟨url, hMade⟩ := exists_attempt_eq client hUsable
  rw [(interpret_eq ..).1, (execute_eq ..).1, hMade]
  -- first whether the body is complete, and only then what it holds
  cases hComplete : client.completeAnswer (.made url network.upcoming) with
  | error e =>
    obtain ⟨message, rfl⟩ := exists_transport_of_completeAnswer hComplete
    apply Judged.incomplete
    intro status bytes hWhole
    cases hComplete.symm.trans (completeAnswer_made_eq_ok_iff.mpr hWhole)
  | ok answer =>
    obtain ⟨status, bytes⟩ := answer
    rw [completeAnswer_made_eq_ok_iff.mp hComplete]
    show Judged _ _ _ _ ((((Json.parseBytes bytes).mapError _).bind) decode)
    cases hText : Json.parseBytes bytes with
    | error fault => exact .unreadable hText
    | ok envelope => exact .read hText

/-- Each call makes of the next exchange what its kind makes of it.  A probe succeeds with a status from 200
to 299 and fails otherwise because the control plane is not reached, and no two exchanges with one status
differ for it.  An operation fails in transport at what does not arrive completely, shows the status of a
whole body that is no JSON text, and otherwise answers as the body reads under any status; an assignment
then always has an answer, which keeps the body. -/
theorem exchange_judged (hProbeUrl : Url.Usable client.settings.probeUrl)
    (hApiUrl : Url.Usable client.settings.apiUrl) (network : Network) :
    ((client.probe network).answer = .ok () ↔
      ∃ status body completion, network.upcoming = .sent (.answered status body completion) ∧
        200 ≤ status.code ∧ status.code < 300) ∧
    (∀ e, (client.probe network).answer = .error e →
      ∃ message, e = .unreachable client.settings.endpoint message) ∧
    (∀ status body completion, network.upcoming = .sent (.answered status body completion) →
      ∀ (other : Network) otherBody otherCompletion,
        other.upcoming = .sent (.answered status otherBody otherCompletion) →
        (client.probe other).answer = (client.probe network).answer ∧
          (client.probe other).log = (client.probe network).log) ∧
    Judged client .getServers Wire.decodeServers network.upcoming
      (client.servers network).answer ∧
    Judged client .getClusterState Wire.decodeClusterState network.upcoming
      (client.clusterState network).answer ∧
    ∀ request,
      Judged client .assignRole (fun envelope => .ok (Wire.classify envelope)) network.upcoming
        (client.assign request network).answer ∧
      ∀ status body envelope, network.upcoming = .sent (.answered status body .whole) →
        Json.parseBytes body = .ok envelope →
        ∃ result, (client.assign request network).answer = .ok result ∧
          result.envelope = envelope := by
  refine ⟨probe_eq_ok_iff hProbeUrl, fun e => probe_eq_error, ?_, judged_interpret hApiUrl ..,
    judged_interpret hApiUrl .., fun request => ?_⟩
  · intro status body completion h other otherBody otherCompletion hOther
    exact probe_eq_of_status hProbeUrl h hOther
  · have hJudged : Judged client .assignRole (fun envelope => .ok (Wire.classify envelope))
        network.upcoming (client.assign request network).answer :=
      judged_interpret hApiUrl ..
    refine ⟨hJudged, fun status body envelope hWhole hText => ?_⟩
    rw [hWhole] at hJudged
    exact ⟨_, hJudged.eq_decode hText, Wire.envelope_classify envelope⟩

/-- The bytes before the break are a JSON text already.  A probe is content with them, and an operation is
not. -/
theorem exchange_judged_cutShort :
    let client : Client := { settings := .default }
    let body := Json.bytesOf "\x7b\x7d"
    let network := Network.ofReplies [.answered .ok body .cutShort]
    Url.Usable client.settings.probeUrl ∧ Url.Usable client.settings.apiUrl ∧
      (Json.parseBytes body).isOk = true ∧
      (client.probe network).answer = .ok () ∧
      ∃ message, (client.servers network).answer =
        .error (.transport client.settings.endpoint message) := by
  intro client body network
  have hProbeUrl : Url.Usable client.settings.probeUrl := by decide +kernel
  have hApiUrl : Url.Usable client.settings.apiUrl := by decide +kernel
  have hText : (Json.parseBytes body).isOk = true := by decide +kernel
  have hUpcoming : network.upcoming = .sent (.answered .ok body .cutShort) := rfl
  obtain ⟨hReached, -, -, hServers, -⟩ := exchange_judged hProbeUrl hApiUrl network
  refine ⟨hProbeUrl, hApiUrl, hText, hReached.mpr ⟨_, _, _, hUpcoming, by decide, by decide⟩, ?_⟩
  rw [hUpcoming] at hServers
  generalize (client.servers network).answer = answer at hServers ⊢
  cases hServers with
  | incomplete hIncomplete => exact ⟨_, rfl⟩

end ClusterBootstrap
