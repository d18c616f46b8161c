import ClusterBootstrap.Json.Decoder
import ClusterBootstrap.Json.Printer
import ClusterBootstrap.Proofs.Except
import ClusterBootstrap.Proofs.Text.Ending

/-!
# How printed values and faults of decoding end

The text of a JSON value ends with a bracket, a quote, a digit or a fixed word.  The wording of a fault
may show a foreign text, but always ends with what was expected, which the decoder fixes.
-/

namespace ClusterBootstrap.Json

open Text (EndsInDigit EndsOtherwise endsInDigit_toDigits endsOtherwise_toString)

/-! ## Values -/

theorem endsOtherwise_int (n : Int) : EndsOtherwise (toString n) := by
  rw [Int.toString_eq_repr, Int.repr_eq_if]
  split
  · exact endsOtherwise_toString n.toNat
  · exact (endsOtherwise_toString (-n).toNat).append "-"

theorem endsInDigit_writtenOut {digits : List Char} (hDigits : EndsInDigit digits) (point : Int) :
    EndsInDigit (Decimal.Layout.json.writtenOut digits point) := by
  unfold Decimal.Layout.writtenOut
  split
  · -- `0.` and zeros come before the digits
    exact hDigits.append ('0' :: '.' :: List.replicate (-point).toNat '0')
  · split
    next hLess =>
      have hAfter := (hDigits.drop hLess).append ['.']
      exact hAfter.append _
    next =>
      have hZero : EndsInDigit ['.', '0'] := ⟨'0', rfl, rfl⟩
      exact hZero.append _

theorem endsInDigit_scientific (digits : List Char) (point : Int) :
    EndsInDigit (Decimal.Layout.scientific digits point) := by
  have hPower := endsInDigit_toDigits (point - 1).natAbs
  have hSigned := hPower.append ['e', if point - 1 < 0 then '-' else '+']
  exact hSigned.append _

theorem endsOtherwise_jsonText (x : Float) : EndsOtherwise (Decimal.jsonText x) := by
  apply EndsInDigit.otherwise
  rw [Decimal.jsonText, Decimal.Layout.text, String.toList_ofList]
  apply EndsInDigit.append
  split
  · exact ⟨'0', rfl, rfl⟩
  · dsimp only
    split
    · exact endsInDigit_writtenOut (endsInDigit_toDigits _) _
    · exact endsInDigit_scientific _ _

theorem endsOtherwise_quote (s : String) : EndsOtherwise (quote s) :=
  EndsOtherwise.append (by decide) _

/-- The text of a value never ends in the word that tells success. -/
theorem endsOtherwise_render (spacing : Spacing) (depth : Nat) (json : Json) :
    EndsOtherwise (render spacing depth json) := by
  -- only the bracket that closes an array or object counts, and not what stands in it
  cases json with
  | null =>
    rw [render]
    decide
  | bool value =>
    cases value with
    | true =>
      rw [render]
      decide
    | false =>
      rw [render]
      decide
  | integer n =>
    rw [render]
    exact endsOtherwise_int n
  | decimal x =>
    rw [render]
    exact endsOtherwise_jsonText x
  | string s =>
    rw [render]
    exact endsOtherwise_quote s
  | array items =>
    cases items with
    | nil =>
      rw [render]
      decide
    | cons item items =>
      rw [render]
      exact EndsOtherwise.append (by decide) _
  | object members =>
    cases members with
    | nil =>
      rw [render]
      decide
    | cons m members =>
      rw [render]
      exact EndsOtherwise.append (by decide) _

/-! ## Faults of plain forms -/

variable {α β : Type}

/-- Every fault of this decoder has a wording that ends in a text of the decoder's own. -/
def Worded (decode : Decoder α) : Prop :=
  ∀ json fault, decode json = .error fault → EndsOtherwise fault.text

theorem endsOtherwise_invalidType (found : Json) {expected : String}
    (hExpected : EndsOtherwise expected) :
    EndsOtherwise (DecodeFault.invalidType found expected).text :=
  hExpected.append _

theorem worded_string : Worded Decoder.string := by
  intro json fault hError
  unfold Decoder.string at hError
  split at hError
  · cases hError
  · cases hError
    exact endsOtherwise_invalidType _ (by decide)

theorem worded_bool : Worded Decoder.bool := by
  intro json fault hError
  unfold Decoder.bool at hError
  split at hError
  · cases hError
  · cases hError
    exact endsOtherwise_invalidType _ (by decide)

theorem worded_uint64 : Worded Decoder.uint64 := by
  intro json fault hError
  have hExpected : EndsOtherwise "u64" := by decide
  unfold Decoder.uint64 at hError
  split at hError
  · split at hError
    · cases hError
    · cases hError
      exact hExpected.append _
  · cases hError
    exact endsOtherwise_invalidType _ hExpected

theorem worded_option {decode : Decoder α} (hDecode : Worded decode) :
    Worded (Decoder.option decode) := by
  intro json fault hError
  unfold Decoder.option at hError
  split at hError
  · cases hError
  · exact hDecode _ fault (map_eq_error_iff.mp hError)

theorem endsOtherwise_of_mapM {decode : Decoder α} (hDecode : Worded decode) {items : List Json}
    {fault : DecodeFault} (hError : items.mapM decode = .error fault) :
    EndsOtherwise fault.text := by
  induction items with
  | nil => cases hError
  | cons item items ih =>
    rw [List.mapM_cons] at hError
    rcases bind_eq_error_iff.mp hError with hFirst | ⟨a, -, hRest⟩
    · exact hDecode item fault hFirst
    · rcases bind_eq_error_iff.mp hRest with hItems | ⟨as, -, hDone⟩
      · exact ih hItems
      · cases hDone

theorem worded_list {decode : Decoder α} (hDecode : Worded decode) :
    Worded (Decoder.list decode) := by
  intro json fault hError
  unfold Decoder.list at hError
  split at hError
  · exact endsOtherwise_of_mapM hDecode hError
  · cases hError
    exact endsOtherwise_invalidType _ (by decide)

/-! ## Faults of records -/

/-- A member that is wrong is a member of one of the two. -/
theorem wrong_of_seq {f : Collected (α → β)} {x : Collected α} {name : String}
    {fault : DecodeFault} (hWrong : f.seq x = .wrong name fault) :
    f = .wrong name fault ∨ x = .wrong name fault := by
  unfold Collected.seq at hWrong
  split at hWrong
  · cases hWrong
  · split at hWrong
    · cases hWrong
      exact .inr rfl
    · cases hWrong
      exact .inl rfl
  · cases hWrong
    exact .inl rfl
  · cases hWrong
    exact .inr rfl
  · cases hWrong
  · cases hWrong

namespace Fields

/-- The same of a description of fields, where what an array should have been is worded for it. -/
structure Worded (fields : Fields α) : Prop where
  wrong : ∀ {members name fault}, fields.ofMembers members = .wrong name fault →
    EndsOtherwise fault.text
  ofItems : ∀ {expected remaining fault}, EndsOtherwise expected →
    fields.ofItems expected remaining = .error fault → EndsOtherwise fault.text

theorem worded_field {decode : Decoder α} (hDecode : Json.Worded decode) (name : String)
    (absent : Option α) (atEnd : AtEnd α) : Worded (field name decode absent atEnd) where
  wrong := by
    intro members other fault hWrong
    simp only [field] at hWrong
    split at hWrong
    · split at hWrong
      · cases hWrong
      next hError =>
        cases hWrong
        exact hDecode _ fault hError
    · split at hWrong <;> cases hWrong
  ofItems := by
    intro expected remaining fault hExpected hError
    simp only [field] at hError
    split at hError
    · exact hDecode _ fault (map_eq_error_iff.mp hError)
    · split at hError
      · cases hError
      · cases hError
        exact hExpected.append _

theorem worded_required {decode : Decoder α} (hDecode : Json.Worded decode) (name : String) :
    Worded (required name decode) :=
  worded_field hDecode name none .refuse

theorem worded_defaulted {decode : Decoder α} (hDecode : Json.Worded decode) (name : String)
    (value : α) : Worded (defaulted name decode value) :=
  worded_field hDecode name (some value) (.default value)

theorem worded_pure (a : α) : Worded (Fields.pure a) where
  wrong hWrong := by cases hWrong
  ofItems _ hError := by cases hError

theorem Worded.seq {f : Fields (α → β)} {x : Fields α} (hFirst : Worded f) (hSecond : Worded x) :
    Worded (f <*> x) where
  wrong := by
    intro members name fault hWrong
    rcases wrong_of_seq hWrong with hf | hx
    · exact hFirst.wrong hf
    · exact hSecond.wrong hx
  ofItems := by
    intro expected remaining fault hExpected hError
    rcases bind_eq_error_iff.mp hError with hf | ⟨⟨g, between⟩, -, hRest⟩
    · exact hFirst.ofItems hExpected hf
    · rcases bind_eq_error_iff.mp hRest with hx | ⟨⟨a, after⟩, -, hDone⟩
      · exact hSecond.ofItems hExpected hx
      · cases hDone

theorem Worded.map {x : Fields α} (hFields : Worded x) (g : α → β) : Worded (g <$> x) :=
  (worded_pure g).seq hFields

theorem worded_record {fields : Fields α} {name : String} (hName : EndsOtherwise name)
    (hFields : Worded fields) (size : Nat) : Json.Worded (record name size fields) := by
  intro json fault hError
  unfold record at hError
  split at hError
  next members =>
    -- a member is wrong, or one is missing, which the wording quotes
    cases hCollected : fields.ofMembers members with
    | complete a => rw [hCollected] at hError; cases hError
    | missing field =>
      rw [hCollected] at hError
      cases hError
      exact EndsOtherwise.append (by decide) _
    | wrong field fault =>
      rw [hCollected] at hError
      cases hError
      exact hFields.wrong hCollected
  next items =>
    have hElements : EndsOtherwise (if size = 1 then " element" else " elements") := by
      split <;> decide
    rcases bind_eq_error_iff.mp hError with hItems | ⟨⟨a, remaining⟩, -, hRest⟩
    · exact hFields.ofItems (hElements.append _) hItems
    · dsimp only at hRest
      split at hRest
      · cases hRest
      · cases hRest
        exact EndsOtherwise.append (by decide) _
  next =>
    cases hError
    exact endsOtherwise_invalidType _ (hName.append _)

end Fields

end ClusterBootstrap.Json
