import ClusterBootstrap.Text.Parts

/-!
# How texts end

Printed texts are divided into lines, and free texts in them may hold line breaks and so begin lines of
their own.  What the last line can be is then told by how the whole text ends.  A text that ends otherwise
than the word `success` keeps doing so, whatever is put in front of it.
-/

namespace ClusterBootstrap.Text

/-! ## Lines -/

/-- The lines of a text, each ended by a line break; what stands behind the last break is no line. -/
def lines (text : String) : List String :=
  (stringParts '\n' text).dropLast

/-- A separator between two texts keeps their parts apart. -/
theorem parts_append (separator : Char) (text others : List Char) :
    parts separator (text ++ separator :: others) =
      parts separator text ++ parts separator others := by
  induction text with
  | nil => simp [parts]
  | cons c text ih =>
    obtain ⟨part, rest, hParts⟩ := List.exists_cons_of_ne_nil (parts_ne_nil separator text)
    by_cases hSeparator : c = separator
    · simp [parts, hSeparator, ih]
    · -- any other character goes into the first part
      simp [parts, hSeparator, ih, hParts]

theorem parts_of_not_mem {separator : Char} {text : List Char} (hNone : separator ∉ text) :
    parts separator text = [text] := by
  induction text with
  | nil => rfl
  | cons c text ih =>
    have hOther : ¬ c = separator := fun hEq => hNone (hEq ▸ List.mem_cons_self)
    have hRest : separator ∉ text := fun hMem => hNone (List.mem_cons_of_mem _ hMem)
    rw [parts, if_neg hOther, ih hRest]

theorem suffix_intercalate (separator last : List Char) (before : List (List Char)) :
    last <:+ separator.intercalate (before ++ [last]) := by
  induction before with
  | nil => simp
  | cons part before ih =>
    rw [List.cons_append, List.intercalate_cons_of_ne_nil (by simp)]
    exact ih.trans (List.suffix_append _ _)

/-- What holds of texts and of the separator between them holds of all they are put together to. -/
theorem forall_intercalate {P : Char → Prop} {separator : List Char} {texts : List (List Char)}
    (hSeparator : ∀ c ∈ separator, P c) (hTexts : ∀ text ∈ texts, ∀ c ∈ text, P c) :
    ∀ c ∈ separator.intercalate texts, P c := by
  induction texts with
  | nil => exact List.forall_mem_nil _
  | cons text texts ih =>
    obtain ⟨hText, hRest⟩ := List.forall_mem_cons.mp hTexts
    cases texts with
    | nil => simpa using hText
    | cons next texts =>
      rw [List.intercalate_cons_of_ne_nil (List.cons_ne_nil next texts)]
      exact List.forall_mem_append.mpr
        ⟨List.forall_mem_append.mpr ⟨hText, hSeparator⟩, ih hRest⟩

/-- The last line of a text that ends with a line break is the last part of what stands before it. -/
theorem getLast?_lines_append_break (text : String) :
    (lines (text ++ "\n")).getLast? = (stringParts '\n' text).getLast? := by
  have hBreak : (text ++ "\n").toList = text.toList ++ ['\n'] := String.toList_append
  have hParts : parts '\n' (text ++ "\n").toList = parts '\n' text.toList ++ [[]] := by
    rw [hBreak]
    exact parts_append '\n' text.toList []
  rw [lines, stringParts, hParts, List.map_append, List.map_singleton, List.dropLast_concat]
  rfl

/-- It is an end of the text before that break. -/
theorem suffix_of_getLast?_lines {text line : String}
    (hLast : (lines (text ++ "\n")).getLast? = some line) : line.toList <:+ text.toList := by
  rw [getLast?_lines_append_break, stringParts, List.getLast?_map] at hLast
  obtain ⟨part, hPart, rfl⟩ := Option.map_eq_some_iff.mp hLast
  obtain ⟨before, hParts⟩ := List.getLast?_eq_some_iff.mp hPart
  have hText := intercalate_parts '\n' text.toList
  rw [hParts] at hText
  rw [String.toList_ofList, ← hText]
  exact suffix_intercalate _ part before

/-! ## Ends -/

/-- Read from its end, a text comes to differ from the word `success`: neither of the two is an end of the
other. -/
structure EndsOtherwise (text : String) : Prop where
  not_in : ¬ text.toList <:+ "success".toList
  not_of : ¬ "success".toList <:+ text.toList

instance (text : String) : Decidable (EndsOtherwise text) :=
  decidable_of_iff (¬ text.toList <:+ "success".toList ∧ ¬ "success".toList <:+ text.toList)
    ⟨fun h => ⟨h.1, h.2⟩, fun h => ⟨h.not_in, h.not_of⟩⟩

/-- Two ends of one text are ends of one another, so nothing in front makes up for the difference. -/
theorem EndsOtherwise.append {tail : String} (hTail : EndsOtherwise tail) (text : String) :
    EndsOtherwise (text ++ tail) := by
  have hEnd : tail.toList <:+ (text ++ tail).toList := by
    rw [String.toList_append]
    exact List.suffix_append _ _
  constructor
  · intro hIn
    exact hTail.not_in (hEnd.trans hIn)
  · intro hOf
    rcases List.suffix_or_suffix_of_suffix hOf hEnd with hWord | hText
    · exact hTail.not_of hWord
    · exact hTail.not_in hText

/-- The word is not the last line of a text that ends otherwise. -/
theorem EndsOtherwise.getLast?_lines_ne {text : String} (h : EndsOtherwise text) :
    (lines (text ++ "\n")).getLast? ≠ some "success" := by
  intro hLast
  exact h.not_of (suffix_of_getLast?_lines hLast)

/-- A text and the word may have an end in common before they differ. -/
theorem endsOtherwise_of_differ {text : String} {before stem tail : List Char} {c d : Char}
    (hText : text.toList = before ++ c :: tail) (hWord : "success".toList = stem ++ d :: tail)
    (hDiffer : c ≠ d) : EndsOtherwise text := by
  have hEndOfText : c :: tail <:+ text.toList := hText ▸ List.suffix_append before _
  have hEndOfWord : d :: tail <:+ "success".toList := hWord ▸ List.suffix_append stem _
  -- one text has one end of this length
  have hSame {whole : List Char} (hc : c :: tail <:+ whole) (hd : d :: tail <:+ whole) : c = d := by
    have hWithin := List.suffix_of_suffix_length_le hc hd (by simp)
    exact (List.cons.inj (hWithin.eq_of_length (by simp))).1
  constructor
  · intro hIn
    exact hDiffer (hSame (hEndOfText.trans hIn) hEndOfWord)
  · intro hOf
    exact hDiffer (hSame hEndOfText (hEndOfWord.trans hOf))

/-! ## Numbers -/

/-- The last character is a decimal digit. -/
def EndsInDigit (chars : List Char) : Prop :=
  ∃ c, chars.getLast? = some c ∧ c.isDigit = true

theorem EndsInDigit.append {tail : List Char} (hTail : EndsInDigit tail) (chars : List Char) :
    EndsInDigit (chars ++ tail) := by
  obtain ⟨c, hLast, hDigit⟩ := hTail
  refine ⟨c, ?_, hDigit⟩
  rw [List.getLast?_append, hLast]
  rfl

/-- What is left of digits, if anything, still ends in the last of them. -/
theorem EndsInDigit.drop {chars : List Char} (h : EndsInDigit chars) {n : Nat}
    (hLess : n < chars.length) : EndsInDigit (chars.drop n) := by
  obtain ⟨c, hLast, hDigit⟩ := h
  refine ⟨c, ?_, hDigit⟩
  rw [List.getLast?_drop, if_neg (Nat.not_le.mpr hLess), hLast]

theorem endsInDigit_toDigits (n : Nat) : EndsInDigit (Nat.toDigits 10 n) := by
  have hSome : Nat.toDigits 10 n ≠ [] := Nat.toDigits_ne_nil
  have hMem := List.getLast_mem hSome
  refine ⟨(Nat.toDigits 10 n).getLast hSome, List.getLast?_eq_some_getLast hSome, ?_⟩
  exact Nat.isDigit_of_mem_toDigits (by decide) (by decide) hMem

theorem ne_of_isDigit {c : Char} (hDigit : c.isDigit = true) : c ≠ 's' := by
  rintro rfl
  contradiction

theorem EndsInDigit.otherwise {text : String} (h : EndsInDigit text.toList) :
    EndsOtherwise text := by
  obtain ⟨c, hLast, hDigit⟩ := h
  obtain ⟨before, hText⟩ := List.getLast?_eq_some_iff.mp hLast
  have hWord : "success".toList = "succes".toList ++ ['s'] := rfl
  exact endsOtherwise_of_differ hText hWord (ne_of_isDigit hDigit)

theorem endsOtherwise_toString (n : Nat) : EndsOtherwise (toString n) := by
  have hDigits : (toString n).toList = Nat.toDigits 10 n := Nat.toList_repr
  apply EndsInDigit.otherwise
  rw [hDigits]
  exact endsInDigit_toDigits n

/-- A number of seconds ends with the letter, but the digit before it tells it apart. -/
theorem endsOtherwise_seconds (n : Nat) : EndsOtherwise (toString n ++ "s") := by
  obtain ⟨c, hLast, hDigit⟩ := endsInDigit_toDigits n
  obtain ⟨before, hBefore⟩ := List.getLast?_eq_some_iff.mp hLast
  have hDigits : (toString n).toList = before ++ [c] := Nat.toList_repr.trans hBefore
  have hText : (toString n ++ "s").toList = before ++ c :: ['s'] := by
    rw [String.toList_append, hDigits]
    simp
  have hWord : "success".toList = "succe".toList ++ 's' :: ['s'] := rfl
  exact endsOtherwise_of_differ hText hWord (ne_of_isDigit hDigit)

end ClusterBootstrap.Text
