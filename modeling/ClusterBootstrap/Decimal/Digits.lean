/-!
# Decimal digits

Runs of ASCII digits and their values, and the ranges of machine words that such values are held to.
-/

namespace ClusterBootstrap.Decimal

/-- The value of a list of decimal digits; leading zeros do not count. -/
def digitsValue (digits : List Char) : Nat :=
  digits.foldl (fun n d => 10 * n + (d.toNat - 48)) 0

/-- The decimal digits at the head of a text, and what follows them. -/
def spanDigits (text : List Char) : List Char × List Char :=
  (text.takeWhile Char.isDigit, text.dropWhile Char.isDigit)

/-- Reads a natural number: one digit or more, and nothing else. -/
def natural? (text : List Char) : Option Nat :=
  if text ≠ [] ∧ text.all Char.isDigit then some (digitsValue text) else none

/-- A number is read from digits only, and its value is theirs. -/
theorem natural?_eq_some_iff {text : List Char} {n : Nat} :
    natural? text = some n ↔
      text ≠ [] ∧ (∀ c ∈ text, c.isDigit = true) ∧ Nat.ofDigitChars 10 text 0 = n := by
  unfold natural?
  split
  · rename_i hDigits
    obtain ⟨hNonempty, hAll⟩ := hDigits
    constructor
    · intro hValue
      exact ⟨hNonempty, List.all_eq_true.mp hAll, Option.some.inj hValue⟩
    · rintro ⟨-, -, hValue⟩
      exact congrArg some hValue
  · rename_i hOther
    constructor
    · rintro ⟨⟩
    · rintro ⟨hNonempty, hAll, -⟩
      exact absurd ⟨hNonempty, List.all_eq_true.mpr hAll⟩ hOther

/-! ## Machine words -/

/-- The number of 64-bit words. -/
def wordCount : Nat := 0x10000000000000000

/-- The number of signed 64-bit words that are not negative. -/
def signedCount : Nat := 0x8000000000000000

/-- Whether an unsigned 64-bit word holds an integer. -/
def isWord (n : Int) : Bool := 0 ≤ n && n < wordCount

/-- Whether a signed 64-bit word holds an integer. -/
def isSignedWord (n : Int) : Bool := -(signedCount : Int) ≤ n && n < signedCount

end ClusterBootstrap.Decimal
