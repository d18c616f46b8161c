import ClusterBootstrap.Proofs.Json.Strings

/-!
# Integers in decimal

An integer that a machine word holds is read back from its decimal digits, as long as what follows them
could not be more of the number.
-/

namespace ClusterBootstrap.Json

/-! ## Digits -/

theorem toNat_lt_of_isDigit {c : Char} (hDigit : c.isDigit = true) : c.toNat < 0x80 :=
  Nat.lt_of_le_of_lt (Char.isDigit_iff_toNat.mp hDigit).2 (by decide)

theorem isDigitByte_byte {c : Char} (hDigit : c.isDigit = true) : isDigitByte (byte c) = true := by
  have hNat := toNat_byte (toNat_lt_of_isDigit hDigit)
  simp only [isDigitByte, Bool.and_eq_true, decide_eq_true_eq, UInt8.le_iff_toNat_le, hNat]
  exact Char.isDigit_iff_toNat.mp hDigit

theorem isDigit_of_mem {n : Nat} {c : Char} (hMem : c ∈ Nat.toDigits 10 n) : c.isDigit = true :=
  Nat.isDigit_of_mem_toDigits (by decide) (by decide) hMem

theorem encode_eq_map_byte {chars : List Char} (hDigits : ∀ c ∈ chars, c.isDigit = true) :
    encode chars = chars.map byte := by
  induction chars with
  | nil => rfl
  | cons c chars ih =>
    rw [encode_cons, encode_ascii (toNat_lt_of_isDigit (hDigits c List.mem_cons_self)),
      ih fun d hMem => hDigits d (List.mem_cons_of_mem _ hMem)]
    rfl

/-- More digits make no smaller number. -/
theorem le_ofDigitChars (chars : List Char) (significand : Nat) :
    significand ≤ Nat.ofDigitChars 10 chars significand := by
  induction chars generalizing significand with
  | nil => exact Nat.le_refl _
  | cons c chars ih =>
    rw [Nat.ofDigitChars_cons]
    exact Nat.le_trans (by omega) (ih _)

/-- No digit is left out of a number that a machine word holds. -/
theorem appendDigits_map_byte {chars : List Char} (hDigits : ∀ c ∈ chars, c.isDigit = true)
    {significand : Nat}
    (hFits : Nat.ofDigitChars 10 chars significand < Decimal.wordCount) :
    appendDigits significand (chars.map byte) = (Nat.ofDigitChars 10 chars significand, 0) := by
  induction chars generalizing significand with
  | nil => rfl
  | cons c chars ih =>
    have hDigit := hDigits c List.mem_cons_self
    have hNat := toNat_byte (toNat_lt_of_isDigit hDigit)
    rw [Nat.ofDigitChars_cons] at hFits ⊢
    have hNext : 10 * significand + ((byte c).toNat - 48) < Decimal.wordCount := by
      rw [hNat]
      exact Nat.lt_of_le_of_lt (le_ofDigitChars chars _) hFits
    rw [List.map_cons, appendDigits]
    simp only [hNext, if_true]
    rw [hNat]
    exact ih (fun d hMem => hDigits d (List.mem_cons_of_mem _ hMem)) hFits

/-- Only zero is written with a zero in front. -/
theorem head?_toDigits_ne {n : Nat} (hPos : 0 < n) : (Nat.toDigits 10 n).head? ≠ some '0' := by
  induction n using Nat.strongRecOn with
  | ind n ih =>
    rcases Nat.lt_or_ge n 10 with hLt | hGe
    · rw [Nat.toDigits_of_lt_base hLt, List.head?_singleton, ne_eq, Option.some.injEq]
      have hDigits : ∀ d < 10, 0 < d → Nat.digitChar d ≠ '0' := by decide
      exact hDigits n hLt hPos
    · have hLeading := ih (n / 10) (Nat.div_lt_self hPos (by decide)) (Nat.div_pos hGe (by decide))
      obtain ⟨c, chars, hChars⟩ := List.exists_cons_of_ne_nil (@Nat.toDigits_ne_nil (n / 10) 10)
      rw [Nat.toDigits_of_base_le (by decide) hGe, hChars]
      rwa [hChars] at hLeading

/-! ## Numbers -/

/-- What may follow a number: nothing, or a byte that could not be more of it. -/
def Delimited (rest : List UInt8) : Prop :=
  ∀ b ∈ rest.head?, isDigitByte b = false ∧ b ≠ byte '.' ∧ b ≠ byte 'e' ∧ b ≠ byte 'E'

theorem delimited_nil : Delimited [] :=
  fun _ hNone => absurd hNone (by simp)

theorem delimited_cons {b : UInt8} (rest : List UInt8)
    (hByte : isDigitByte b = false ∧ b ≠ byte '.' ∧ b ≠ byte 'e' ∧ b ≠ byte 'E') :
    Delimited (b :: rest) := by
  intro _ hHead
  obtain rfl := Option.some.inj hHead
  exact hByte

theorem Delimited.takeWhile_eq_nil {rest : List UInt8} (hRest : Delimited rest) :
    rest.takeWhile isDigitByte = [] := by
  cases rest with
  | nil => rfl
  | cons b rest => rw [List.takeWhile_cons, (hRest b rfl).1]; rfl

theorem Delimited.dropWhile_eq_self {rest : List UInt8} (hRest : Delimited rest) :
    rest.dropWhile isDigitByte = rest := by
  cases rest with
  | nil => rfl
  | cons b rest => rw [List.dropWhile_cons, (hRest b rfl).1]; rfl

theorem appendDigits_toDigits {n : Nat} (hWord : n < Decimal.wordCount) :
    appendDigits 0 ((Nat.toDigits 10 n).map byte) = (n, 0) := by
  have hBack : Nat.ofDigitChars 10 (Nat.toDigits 10 n) 0 = n := Nat.ofDigitChars_ten_toDigits
  rw [appendDigits_map_byte (fun _ => isDigit_of_mem) (hBack.symm ▸ hWord), hBack]

/-- The reader splits off all digits of a number and nothing else.  A zero in front it takes alone,
but then there are no others. -/
theorem split_toDigits {n : Nat} {c : Char} {chars : List Char}
    (hChars : Nat.toDigits 10 n = c :: chars) {rest : List UInt8} (hRest : Delimited rest) :
    (if byte c = byte '0' then [byte c]
        else (byte c :: (chars.map byte ++ rest)).takeWhile isDigitByte) = (c :: chars).map byte ∧
      (if byte c = byte '0' then chars.map byte ++ rest
        else (byte c :: (chars.map byte ++ rest)).dropWhile isDigitByte) = rest := by
  rcases Nat.eq_zero_or_pos n with rfl | hPos
  · rw [Nat.toDigits_zero, List.cons.injEq] at hChars
    obtain ⟨rfl, rfl⟩ := hChars
    exact ⟨rfl, rfl⟩
  · have hDigits : ∀ d ∈ c :: chars, d.isDigit = true := fun d hMem =>
      isDigit_of_mem (hChars.symm ▸ hMem)
    have hBytes : ∀ b ∈ (c :: chars).map byte, isDigitByte b = true :=
      List.forall_mem_map.mpr fun d hMem => isDigitByte_byte (hDigits d hMem)
    have hLeading : byte c ≠ byte '0' := by
      intro hZero
      have hChar : c = '0' :=
        byte_inj (toNat_lt_of_isDigit (hDigits c List.mem_cons_self)) (by decide) hZero
      exact head?_toDigits_ne hPos (by rw [hChars, hChar]; rfl)
    rw [if_neg hLeading, if_neg hLeading, ← List.cons_append, ← List.map_cons,
      List.takeWhile_append_of_pos hBytes, List.dropWhile_append_of_pos hBytes,
      hRest.takeWhile_eq_nil, hRest.dropWhile_eq_self, List.append_nil]
    exact ⟨rfl, rfl⟩

/-- A number is read back from its digits. -/
theorem readNumber_toDigits {n : Nat} (hWord : n < Decimal.wordCount) (negative : Bool)
    {rest : List UInt8} (hRest : Delimited rest) :
    readNumber negative ((Nat.toDigits 10 n).map byte ++ rest) =
      .ok (wholeNumber negative n, rest) := by
  have hValue := appendDigits_toDigits hWord
  obtain ⟨c, chars, hChars⟩ := List.exists_cons_of_ne_nil (@Nat.toDigits_ne_nil n 10)
  obtain ⟨hDigits, hAfter⟩ := split_toDigits hChars hRest
  have hFirst : isDigitByte (byte c) = true :=
    isDigitByte_byte (isDigit_of_mem (hChars.symm ▸ List.mem_cons_self))
  rw [hChars] at hValue ⊢
  rw [List.map_cons, List.cons_append, readNumber]
  simp only [hFirst, not_true_eq_false, if_false, hDigits, hAfter, hValue]
  cases rest with
  | nil => rfl
  | cons b rest =>
    obtain ⟨hDigit, hPoint, hLower, hUpper⟩ := hRest b rfl
    simp [hDigit, hPoint, hLower, hUpper]

/-! ## Integers -/

theorem bytesOf_repr (n : Nat) : bytesOf n.repr = (Nat.toDigits 10 n).map byte := by
  rw [bytesOf_eq_encode, Nat.toList_repr, encode_eq_map_byte fun _ => isDigit_of_mem]

theorem readValue_digit {b : UInt8} (hDigit : isDigitByte b = true) (depth : Nat)
    (rest : List UInt8) : readValue depth (b :: rest) = readNumber false (b :: rest) := by
  have hNe : ∀ c : Char, isDigitByte (byte c) = false → b ≠ byte c := by
    rintro c hOther rfl
    rw [hOther] at hDigit
    contradiction
  have hBlank : isBlankByte b = false := by
    simp only [isBlankByte, hNe ' ' (by decide), hNe '\n' (by decide), hNe '\t' (by decide),
      hNe '\r' (by decide), decide_false, Bool.or_false]
  rw [readValue.eq_def, skipBlank, List.dropWhile_cons_of_neg (by simp [hBlank])]
  simp only [hNe 'n' (by decide), hNe 't' (by decide), hNe 'f' (by decide), hNe '-' (by decide),
    hDigit, if_false, if_true]

theorem readValue_minus (depth : Nat) (rest : List UInt8) :
    readValue depth (byte '-' :: rest) = readNumber true rest := by
  rw [readValue.eq_def]
  rfl

/-- An integer of a machine word is read back from its text. -/
theorem readValue_integer {n : Int} (hWord : Decimal.isWord n ∨ Decimal.isSignedWord n)
    (depth : Nat) {rest : List UInt8} (hRest : Delimited rest) :
    readValue depth (bytesOf (toString n) ++ rest) = .ok (.integer n, rest) := by
  have hSigned : Decimal.signedCount < Decimal.wordCount := by decide
  simp only [Decimal.isWord, Decimal.isSignedWord, Bool.and_eq_true, decide_eq_true_eq] at hWord
  rw [Int.toString_eq_repr, Int.repr_eq_if]
  split
  case isTrue hNonneg =>
    have hNumber := readNumber_toDigits (n := n.toNat) (by omega) false hRest
    obtain ⟨c, chars, hChars⟩ := List.exists_cons_of_ne_nil (@Nat.toDigits_ne_nil n.toNat 10)
    have hDigit : isDigitByte (byte c) = true :=
      isDigitByte_byte (isDigit_of_mem (hChars.symm ▸ List.mem_cons_self))
    rw [bytesOf_repr]
    rw [hChars, List.map_cons, List.cons_append] at hNumber ⊢
    rw [readValue_digit hDigit, hNumber, wholeNumber, if_pos (by simp),
      Int.toNat_of_nonneg hNonneg]
  case isFalse hNegative =>
    have hMinus : bytesOf "-" = [byte '-'] := bytesOf_eq_encode _
    have hNumber := readNumber_toDigits (n := (-n).toNat) (by omega) true hRest
    rw [bytesOf_append, hMinus, bytesOf_repr, List.append_assoc, List.singleton_append,
      readValue_minus, hNumber, wholeNumber, if_neg (by simp), if_pos (by omega)]
    have hBack : -((-n).toNat : Int) = n := by omega
    rw [hBack]

end ClusterBootstrap.Json
