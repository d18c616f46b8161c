import ClusterBootstrap.Proofs.Text.Ending
import ClusterBootstrap.Text.Quoted
import Mathlib.Algebra.Ring.Nat
import Mathlib.Tactic.SplitIfs

/-!
# Line breaks

A text has as many lines as it has line breaks.  Quoted texts have none, whatever was quoted.
-/

namespace ClusterBootstrap.Text

/-- The number of line breaks in a text. -/
def breaks (text : String) : Nat := text.toList.count '\n'

@[simp] theorem breaks_append (text other : String) :
    breaks (text ++ other) = breaks text + breaks other := by
  simp [breaks, String.toList_append]

theorem breaks_join (texts : List String) :
    breaks (String.join texts) = (texts.map breaks).sum := by
  induction texts with
  | nil => rfl
  | cons text texts ih => rw [String.join_cons, breaks_append, ih, List.map_cons, List.sum_cons]

theorem breaks_eq_zero_iff {text : String} : breaks text = 0 ↔ '\n' ∉ text.toList :=
  List.count_eq_zero

/-! ## Lines -/

theorem length_parts (separator : Char) (text : List Char) :
    (parts separator text).length = text.count separator + 1 := by
  induction text with
  | nil => rfl
  | cons c text ih =>
    obtain ⟨part, rest, hParts⟩ := List.exists_cons_of_ne_nil (parts_ne_nil separator text)
    by_cases hSeparator : c = separator
    · simp [parts, hSeparator, ih]
    · -- any other character goes into the first part
      rw [hParts] at ih
      simpa [parts, hSeparator, hParts] using ih

/-- A part has characters of the text only, and never the separator. -/
theorem mem_of_mem_parts {separator c : Char} {text part : List Char}
    (hPart : part ∈ parts separator text) (hMem : c ∈ part) : c ∈ text ∧ c ≠ separator := by
  induction text generalizing part with
  | nil =>
    obtain rfl : part = [] := by simpa [parts] using hPart
    cases hMem
  | cons d text ih =>
    obtain ⟨first, rest, hParts⟩ := List.exists_cons_of_ne_nil (parts_ne_nil separator text)
    rw [hParts] at ih
    have hBehind : part ∈ first :: rest → c ∈ d :: text ∧ c ≠ separator := fun hOld =>
      ⟨List.mem_cons_of_mem _ (ih hOld hMem).1, (ih hOld hMem).2⟩
    by_cases hSeparator : d = separator
    · simp only [parts, hParts, if_pos hSeparator, List.mem_cons] at hPart
      rcases hPart with rfl | hRest
      · cases hMem
      · exact hBehind (List.mem_cons.mpr hRest)
    · simp only [parts, hParts, if_neg hSeparator, List.mem_cons] at hPart
      rcases hPart with rfl | hRest
      · -- the first part has the character before it as well
        rcases List.mem_cons.mp hMem with rfl | hFirst
        · exact ⟨List.mem_cons_self, hSeparator⟩
        · exact ⟨List.mem_cons_of_mem _ (ih List.mem_cons_self hFirst).1,
            (ih List.mem_cons_self hFirst).2⟩
      · exact hBehind (List.mem_cons_of_mem _ hRest)

/-- Every line break ends a line. -/
theorem length_lines (text : String) : (lines text).length = breaks text := by
  rw [lines, stringParts, List.length_dropLast, List.length_map, length_parts]
  rfl

theorem breaks_of_mem_lines {text line : String} (hMem : line ∈ lines text) : breaks line = 0 := by
  obtain ⟨part, hPart, rfl⟩ := List.mem_map.mp (List.dropLast_subset _ hMem)
  rw [breaks_eq_zero_iff, String.toList_ofList]
  exact fun hMem => (mem_of_mem_parts hPart hMem).2 rfl

/-- What is printed as one line, and has no breaks of its own, is one line. -/
theorem lines_append_break {line : String} (hNone : breaks line = 0) (rest : String) :
    lines (line ++ "\n" ++ rest) = line :: lines rest := by
  have hText : (line ++ "\n" ++ rest).toList = line.toList ++ '\n' :: rest.toList := by
    simp [String.toList_append]
  have hRest : (parts '\n' rest.toList).map String.ofList ≠ [] := by
    simpa using parts_ne_nil '\n' rest.toList
  rw [lines, stringParts, hText, parts_append, parts_of_not_mem (breaks_eq_zero_iff.mp hNone),
    List.singleton_append, List.map_cons, List.dropLast_cons_of_ne_nil hRest,
    String.ofList_toList]
  rfl

/-! ## Quoted texts -/

/-- A number is written in the digits of its base. -/
theorem exists_of_mem_toDigits {base n : Nat} {c : Char} (hBase : 1 < base)
    (hMem : c ∈ Nat.toDigits base n) : ∃ d < base, c = Nat.digitChar d := by
  -- on the number without its last digit
  induction n using Nat.strongRecOn generalizing c with
  | ind n ih =>
    rw [Nat.toDigits_eq_if hBase] at hMem
    split at hMem
    · rename_i hLt
      exact ⟨n, hLt, List.mem_singleton.mp hMem⟩
    · rename_i hGe
      rcases List.mem_append.mp hMem with hFirst | hLast
      · exact ih (n / base) (Nat.div_lt_self (by omega) hBase) hFirst
      · exact ⟨n % base, Nat.mod_lt _ (by omega), List.mem_singleton.mp hLast⟩

theorem breaks_hexDigits (n : Nat) : breaks (hexDigits n) = 0 := by
  have hDigit : ∀ d < 16, Nat.digitChar d ≠ '\n' := by decide
  rw [breaks_eq_zero_iff, hexDigits, String.toList_ofList]
  intro hMem
  obtain ⟨d, hLt, hEq⟩ := exists_of_mem_toDigits (by decide) hMem
  exact hDigit d hLt hEq.symm

/-- A line break is written by a letter, and no other character is shown as one. -/
theorem breaks_escapeChar (c : Char) : breaks (escapeChar c) = 0 := by
  unfold escapeChar
  split_ifs with hZero hTab hReturn hBreak hSlash hQuote hInvisible
  any_goals decide
  · -- a code point is written in digits
    rw [breaks_append, breaks_append, breaks_hexDigits]
    decide
  · rw [breaks_eq_zero_iff, String.toList_singleton, List.mem_singleton]
    exact Ne.symm hBreak

theorem breaks_quoted (text : String) : breaks (quoted text) = 0 := by
  have hChars : breaks (String.join (text.toList.map escapeChar)) = 0 := by
    rw [breaks_join, List.map_map]
    induction text.toList with
    | nil => rfl
    | cons c chars ih => rw [List.map_cons, List.sum_cons, ih, Function.comp, breaks_escapeChar]
  have hQuote : breaks "\"" = 0 := by decide
  rw [quoted, breaks_append, breaks_append, hChars, hQuote]

end ClusterBootstrap.Text
