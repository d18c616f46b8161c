import ClusterBootstrap.Proofs.Client.Answers

/-!
# How a call fails

A probe fails in one way only.  A query or mutation fails because its reply does not arrive completely, or
because of what the reply says, and then the error names the operation.
-/

namespace ClusterBootstrap

open Net

/-! ## Faults of calls -/

/-- The reply at this place is not completely received. -/
def Incomplete (replies : List Reply) (n : Nat) : Prop :=
  ∀ status body, replies[n]? ≠ some (.answered status body .whole)

/-- How an operation fails at the reply of this place. -/
inductive OperationFault (replies : List Reply) (n : Nat) (operation : Wire.Operation) :
    BootstrapError → Prop where
  | transport {endpoint message : String} (hIncomplete : Incomplete replies n) :
    OperationFault replies n operation (.transport endpoint message)
  /-- Only the queries ask for a result part. -/
  | missingData {envelope : Json} (hQuery : operation ≠ .assignRole) :
    OperationFault replies n operation (.missingData operation.name envelope)
  | malformed {message : String} :
    OperationFault replies n operation (.malformed operation.name message)

variable {replies : List Reply} {n : Nat} {network : Network} {client : Client}
  {e : BootstrapError}

/-! ## The probe -/

/-- Whatever comes of a probe, its only error is that the control plane is not reached. -/
theorem probeAnswer_eq_error {attempt : Client.Attempt}
    (hError : client.probeAnswer attempt = .error e) :
    ∃ message, e = .unreachable client.settings.endpoint message := by
  cases attempt with
  | unusable fault => exact ⟨_, (Except.error.inj hError).symm⟩
  | unsendable url => exact ⟨_, (Except.error.inj hError).symm⟩
  | made url exchange =>
    cases exchange with
    | notConnected reason => exact ⟨_, (Except.error.inj hError).symm⟩
    | sent reply =>
      cases reply with
      | dropped => exact ⟨_, (Except.error.inj hError).symm⟩
      | silent => exact ⟨_, (Except.error.inj hError).symm⟩
      | answered status body completion =>
        simp only [Client.probeAnswer] at hError
        split at hError
        · cases hError
        · exact ⟨_, (Except.error.inj hError).symm⟩

theorem probe_eq_error (hError : (client.probe network).answer = .error e) :
    ∃ message, e = .unreachable client.settings.endpoint message := by
  rw [(probe_eq client network).1] at hError
  exact probeAnswer_eq_error (map_eq_error_iff.mp hError)

/-! ## Operations -/

/-- Whatever keeps an answer from being complete, its only error is one of transport. -/
theorem exists_transport_of_completeAnswer {attempt : Client.Attempt}
    (hError : client.completeAnswer attempt = .error e) :
    ∃ message, e = .transport client.settings.endpoint message := by
  cases attempt with
  | unusable fault => exact ⟨_, (Except.error.inj hError).symm⟩
  | unsendable url => exact ⟨_, (Except.error.inj hError).symm⟩
  | made url exchange =>
    cases exchange with
    | notConnected reason => exact ⟨_, (Except.error.inj hError).symm⟩
    | sent reply =>
      cases reply with
      | dropped => exact ⟨_, (Except.error.inj hError).symm⟩
      | silent => exact ⟨_, (Except.error.inj hError).symm⟩
      | answered status body completion =>
        cases completion with
        | whole => cases hError
        | cutShort => exact ⟨_, (Except.error.inj hError).symm⟩
        | stalled => exact ⟨_, (Except.error.inj hError).symm⟩

/-- Only a reply that is not completely received makes an error of transport. -/
theorem completeAnswer_eq_error {url : Url}
    (hError : client.completeAnswer (.made url (.sent (replies[n]?.getD .dropped))) = .error e) :
    Incomplete replies n ∧ ∃ message, e = .transport client.settings.endpoint message := by
  refine ⟨fun status body hReply => ?_, exists_transport_of_completeAnswer hError⟩
  rw [completeAnswer_eq_ok_iff.mpr hReply] at hError
  cases hError

/-- An operation fails at the reply, at the text of its body, or at what the envelope means. -/
theorem interpret_error_cases {α : Type} {decode : Json → Except BootstrapError α}
    {records : α → List LogRecord} {hRecords : ∀ a, ∀ r ∈ records a, r.source = .client}
    {operation : Wire.Operation} {span : Log.Span} {body : String}
    (hError : (Client.interpret (client.execute operation span body network) decode records
      hRecords).answer = .error e) :
    client.completeAnswer (client.attempt client.settings.apiUrl (some body) network).1 = .error e ∨
      (∃ status bytes, Client.envelopeOf operation status bytes = .error e) ∨
      ∃ envelope, (client.execute operation span body network).answer = .ok envelope ∧
        decode envelope = .error e := by
  rw [(interpret_eq ..).1] at hError
  rcases bind_eq_error_iff.mp hError with hEnvelope | hMeaning
  · rw [(execute_eq ..).1] at hEnvelope
    rcases bind_eq_error_iff.mp hEnvelope with hComplete | ⟨answer, -, hText⟩
    · exact Or.inl hComplete
    · exact Or.inr (Or.inl ⟨_, _, hText⟩)
  · exact Or.inr (Or.inr hMeaning)

/-- An operation fails at the next reply, or at what its envelope means. -/
theorem Net.Network.Spent.operationFault {α : Type} {decode : Json → Except BootstrapError α}
    {records : α → List LogRecord} {hRecords : ∀ a, ∀ r ∈ records a, r.source = .client}
    {operation : Wire.Operation} {span : Log.Span} {body : String}
    (h : Network.Spent replies n network) (hUsable : Url.Usable client.settings.apiUrl)
    (hDecode : ∀ envelope d, decode envelope = .error d → OperationFault replies n operation d)
    (hError : (Client.interpret (client.execute operation span body network) decode records
      hRecords).answer = .error e) :
    OperationFault replies n operation e := by
  obtain ⟨⟨url, hMade⟩, -⟩ := h.attempt hUsable (some body)
  rcases interpret_error_cases hError with hComplete | ⟨status, bytes, hText⟩ | ⟨envelope, -, hMeaning⟩
  · rw [hMade] at hComplete
    obtain ⟨hIncomplete, message, rfl⟩ := completeAnswer_eq_error hComplete
    exact .transport hIncomplete
  · obtain ⟨fault, -, rfl⟩ := mapError_eq_error_iff.mp hText
    exact .malformed
  · exact hDecode envelope e hMeaning

/-- A result part that is not there, or has not its form, is a fault of the query. -/
theorem operationFault_of_decodeData {α : Type} {operation : Wire.Operation}
    {decode : Json.Decoder α} {envelope : Json} (hQuery : operation ≠ .assignRole)
    (hError : Wire.decodeData operation decode envelope = .error e) :
    OperationFault replies n operation e := by
  unfold Wire.decodeData at hError
  split at hError
  · cases hError
    exact .missingData hQuery
  · obtain ⟨fault, -, rfl⟩ := mapError_eq_error_iff.mp hError
    exact .malformed

theorem operationFault_of_decodeClusterState {envelope : Json}
    (hError : Wire.decodeClusterState envelope = .error e) :
    OperationFault replies n .getClusterState e := by
  rcases bind_eq_error_iff.mp hError with hData | ⟨state?, -, hNone⟩
  · exact operationFault_of_decodeData nofun hData
  · cases state? with
    | none =>
      cases hNone
      exact .missingData nofun
    | some state => cases hNone

theorem Net.Network.Spent.servers_eq_error (h : Network.Spent replies n network)
    (hUsable : Url.Usable client.settings.apiUrl)
    (hError : (client.servers network).answer = .error e) :
    OperationFault replies n .getServers e :=
  h.operationFault hUsable (fun _ _ => operationFault_of_decodeData nofun) hError

theorem Net.Network.Spent.clusterState_eq_error (h : Network.Spent replies n network)
    (hUsable : Url.Usable client.settings.apiUrl)
    (hError : (client.clusterState network).answer = .error e) :
    OperationFault replies n .getClusterState e :=
  h.operationFault hUsable (fun _ _ => operationFault_of_decodeClusterState) hError

/-- A complete envelope is never a fault of an assignment, for it is judged whatever it holds. -/
theorem Net.Network.Spent.assign_eq_error (h : Network.Spent replies n network)
    (hUsable : Url.Usable client.settings.apiUrl) {request : AssignmentRequest}
    (hError : (client.assign request network).answer = .error e) :
    OperationFault replies n .assignRole e :=
  h.operationFault hUsable (fun _ _ hClassified => by cases hClassified) hError

end ClusterBootstrap
