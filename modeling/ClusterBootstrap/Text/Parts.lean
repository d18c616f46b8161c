/-!
# Parts of a text

A separator divides a text into parts: one more than the separator occurs, so there is always one, and
parts may be empty.  Put together with the separator between them, the parts are the text again.
-/

namespace ClusterBootstrap.Text

/-- The parts of a text around a separator. -/
def parts (separator : Char) : List Char → List (List Char)
  | [] => [[]]
  | c :: cs =>
    if c = separator then [] :: parts separator cs
    else
      match parts separator cs with
      | part :: rest => (c :: part) :: rest
      | [] => [[c]]

/-- The parts of a string around a separator. -/
def stringParts (separator : Char) (text : String) : List String :=
  (parts separator text.toList).map String.ofList

theorem parts_ne_nil (separator : Char) (text : List Char) : parts separator text ≠ [] := by
  cases text with
  | nil => simp [parts]
  | cons c cs =>
    simp only [parts]
    split
    · simp
    · split <;> simp

/-- Nothing is lost: the parts with the separator between them are the text. -/
theorem intercalate_parts (separator : Char) (text : List Char) :
    [separator].intercalate (parts separator text) = text := by
  induction text with
  | nil => rfl
  | cons c cs ih =>
    obtain ⟨part, rest, hparts⟩ := List.exists_cons_of_ne_nil (parts_ne_nil separator cs)
    rw [hparts] at ih
    by_cases hc : c = separator
    · -- a separator begins with an empty part
      subst hc
      simp only [parts, hparts, if_true]
      simpa [List.intercalate, List.intersperse] using ih
    · -- any other character belongs to the first part
      simp only [parts, hparts, if_neg hc]
      cases rest with
      | nil => simpa [List.intercalate, List.intersperse] using ih
      | cons next rest => simpa [List.intercalate, List.intersperse] using ih

end ClusterBootstrap.Text
