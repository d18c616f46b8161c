import ClusterBootstrap.Proofs.Client.Answers
import ClusterBootstrap.Proofs.Run.Assign

/-!
# Whether the reason of a rejection is true

The response to an assignment is read twice.  Whether the assignment is accepted depends on the result being
there and on the member `errors` not being there.  The reason that is shown of a rejection is the first text
in that member, and without one it is said that there is no result.  The two part where the member is there
and says nothing.
-/

namespace ClusterBootstrap

namespace Wire

/-! ## The two readers -/

/-- The result of an assignment is there, whatever it is. -/
def HoldsResult (envelope : Json) : Prop :=
  ∃ members data, envelope = .object members ∧ members.lookup "data" = some (.object data) ∧
    (data.lookup "join_server").isSome

/-- What is there instead of errors says nothing in words: it is no list, or none of its entries has a
text. -/
inductive Wordless : Json → Prop where
  | noList {errors : Json} (hNoList : ∀ entries, errors ≠ .array entries) : Wordless errors
  | noText {entries : List Json} (hNoText : ∀ entry ∈ entries, ∀ text, ¬ EntryText entry text) :
    Wordless (.array entries)

/-- The member `errors` is there, and says nothing. -/
def HoldsWordless (envelope : Json) : Prop :=
  ∃ members errors, envelope = .object members ∧ members.lookup "errors" = some errors ∧
    Wordless errors

theorem accepted_iff {envelope : Json} :
    (classify envelope).accepted = true ↔
      HoldsResult envelope ∧ envelope.get? "errors" = none := by
  rw [accepted_classify_iff]
  constructor
  · rintro ⟨members, data, rfl, hData, hResult, hErrors⟩
    exact ⟨⟨members, data, rfl, hData, hResult⟩, hErrors⟩
  · rintro ⟨⟨members, data, rfl, hData, hResult⟩, hErrors⟩
    exact ⟨members, data, rfl, hData, hResult, hErrors⟩

theorem rejected_iff {envelope : Json} :
    (classify envelope).accepted = false ↔
      ¬ HoldsResult envelope ∨ ¬ envelope.get? "errors" = none := by
  rw [← Bool.not_eq_true, accepted_iff, not_and_or]

theorem get?_eq_some_iff {envelope value : Json} {name : String} :
    envelope.get? name = some value ↔
      ∃ members, envelope = .object members ∧ members.lookup name = some value := by
  cases envelope <;> simp [Json.get?]

/-- A member `errors` gives no text exactly if it is wordless. -/
theorem findSome?_errorText_eq_none_iff {errors : Json} :
    (errors.items?.bind fun entries => entries.findSome? errorText?) = none ↔ Wordless errors := by
  constructor
  · intro hNone
    cases errors with
    | array entries =>
      refine .noText fun entry hMem => ?_
      exact errorText?_eq_none_iff.mp (List.findSome?_eq_none_iff.mp hNone entry hMem)
    | _ => exact .noList nofun
  · intro hWordless
    cases hWordless with
    | noList hNoList =>
      cases errors with
      | array entries => exact absurd rfl (hNoList entries)
      | _ => rfl
    | noText hNoText =>
      refine List.findSome?_eq_none_iff.mpr fun entry hMem => ?_
      exact errorText?_eq_none_iff.mpr (hNoText entry hMem)

/-- No text is found where there are no errors, and where there are only wordless ones. -/
theorem firstErrorMessage_eq_none_iff {envelope : Json} :
    firstErrorMessage envelope = none ↔
      envelope.get? "errors" = none ∨ HoldsWordless envelope := by
  have hHolds : HoldsWordless envelope ↔
      ∃ errors, envelope.get? "errors" = some errors ∧ Wordless errors := by
    simp only [HoldsWordless, get?_eq_some_iff]
    constructor
    · rintro ⟨members, errors, hEnvelope, hErrors, hWordless⟩
      exact ⟨errors, ⟨members, hEnvelope, hErrors⟩, hWordless⟩
    · rintro ⟨errors, ⟨members, hEnvelope, hErrors⟩, hWordless⟩
      exact ⟨members, errors, hEnvelope, hErrors, hWordless⟩
  rw [hHolds]
  unfold firstErrorMessage
  cases envelope.get? "errors" with
  | none => simp
  | some errors => simpa using findSome?_errorText_eq_none_iff

end Wire

/-! ## The reason of a rejection -/

/-- A rejection that the response does not explain in words is said to lack the result.  That is false exactly
if the result is there and so is a member `errors` without words.  Where no such member is there, it
is true. -/
theorem rejection_misstated_iff (request : AssignmentRequest) (envelope : Json) :
    let error := BootstrapError.rejected request.roles request.node.uri envelope
    ((Wire.classify envelope).accepted = false ↔
      acceptedOnly request (Wire.classify envelope) = .error error) ∧
    (Wire.firstErrorMessage envelope = none → error.message =
      "failed to assign [" ++ ", ".intercalate request.roles ++ "] to " ++ request.node.uri ++
        ": no `join_server` result in response") ∧
    ((Wire.classify envelope).accepted = false ∧ Wire.firstErrorMessage envelope = none ∧
        Wire.HoldsResult envelope ↔
      Wire.HoldsResult envelope ∧ Wire.HoldsWordless envelope) ∧
    (envelope.get? "errors" = none → (Wire.classify envelope).accepted = false →
      ¬ Wire.HoldsResult envelope) := by
  intro error
  refine ⟨⟨acceptedOnly_of_not_accepted request, fun hError => ?_⟩, fun hUntold => ?_, ⟨?_, ?_⟩, ?_⟩
  · -- an accepted result would have been passed on
    rw [← Bool.not_eq_true]
    intro hAccepted
    rw [acceptedOnly_of_accepted request hAccepted] at hError
    cases hError
  · rw [message_rejected, hUntold]
    simp [String.append_assoc]
  · rintro ⟨hRejected, hUntold, hResult⟩
    refine ⟨hResult, ?_⟩
    rcases Wire.rejected_iff.mp hRejected with hNoResult | hErrors
    · exact absurd hResult hNoResult
    · exact (Wire.firstErrorMessage_eq_none_iff.mp hUntold).resolve_left hErrors
  · rintro ⟨hResult, hWordless⟩
    have hUntold := Wire.firstErrorMessage_eq_none_iff.mpr (.inr hWordless)
    obtain ⟨members, errors, rfl, hErrors, -⟩ := hWordless
    have hThere : ¬ (Json.object members).get? "errors" = none := by simp [hErrors]
    exact ⟨Wire.rejected_iff.mpr (.inr hThere), hUntold, hResult⟩
  · intro hNone hRejected
    exact (Wire.rejected_iff.mp hRejected).resolve_right (not_not_intro hNone)

/-- An empty list of errors is such a member: the result that is there is said to be missing. -/
theorem rejection_misstated_empty_errors :
    let envelope : Json := .object [
      ("data", .object [("join_server", .bool true)]), ("errors", .array [])]
    (Wire.classify envelope).accepted = false ∧ Wire.firstErrorMessage envelope = none ∧
      Wire.HoldsResult envelope ∧
      (BootstrapError.rejected ["key-value"] "a:1" envelope).message =
        "failed to assign [key-value] to a:1: no `join_server` result in response" := by
  intro envelope
  have hMessage : (BootstrapError.rejected ["key-value"] "a:1" envelope).message =
      "failed to assign [key-value] to a:1: no `join_server` result in response" := by
    decide +kernel
  exact ⟨rfl, rfl, ⟨_, _, rfl, rfl, rfl⟩, hMessage⟩

end ClusterBootstrap
