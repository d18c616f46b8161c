import ClusterBootstrap.Text.Composition.Pairs
import ClusterBootstrap.Text.Composition.Weight

/-!
# Canonical composition

The same text can be written with composed characters or with marks behind plain ones.  Its composed form is
found in three steps: every character is taken apart, marks are put in the order of their weights, and each
mark is joined to the character it follows if the two make one.  A mark is out of reach of that character if
one of the same weight or a heavier one stands between them.  Of characters that only double others the
tables know nothing.
-/

namespace ClusterBootstrap.Text.Composition

/-! ## Syllables of Hangul -/

/-- The first syllable. -/
def firstSyllable : Nat := 0xac00

/-- How many syllables there are. -/
def syllableCount : Nat := 11172

/-- The letters of a syllable: an initial consonant, a vowel, and a final consonant if there is one. -/
def syllableLetters? (c : Char) : Option (List Char) :=
  let index := c.toNat - firstSyllable
  if firstSyllable ≤ c.toNat ∧ index < syllableCount then
    let letters := [Char.ofNat (0x1100 + index / 588), Char.ofNat (0x1161 + index % 588 / 28)]
    some (if index % 28 = 0 then letters else letters ++ [Char.ofNat (0x11a7 + index % 28)])
  else none

/-- The syllable of an initial consonant and a vowel, or of such a syllable and a final consonant. -/
def syllable? (a b : Char) : Option Char :=
  let first := a.toNat
  let second := b.toNat
  if 0x1100 ≤ first ∧ first < 0x1113 ∧ 0x1161 ≤ second ∧ second < 0x1176 then
    some (Char.ofNat (firstSyllable + (first - 0x1100) * 588 + (second - 0x1161) * 28))
  else if firstSyllable ≤ first ∧ first < firstSyllable + syllableCount ∧
      (first - firstSyllable) % 28 = 0 ∧ 0x11a8 ≤ second ∧ second < 0x11c3 then
    some (Char.ofNat (first + (second - 0x11a7)))
  else none

/-! ## Taking apart -/

/-- Takes a character apart, and then its parts, so many times at most. -/
def decomposeChar : Nat → Char → List Char
  | 0, c => [c]
  | depth + 1, c =>
    match syllableLetters? c with
    | some letters => letters
    | none =>
      match pairs.find? c with
      | some pair => pair.flatMap (decomposeChar depth)
      | none => [c]

/-- Takes all characters of a text apart.  No character is composed more than four times over. -/
def decompose (text : List Char) : List Char := text.flatMap (decomposeChar 4)

/-! ## Putting marks in order -/

/-- Puts a character before others, but behind the lighter marks at their head if it is a mark. -/
def place (c : Char) : List Char → List Char
  | [] => [c]
  | d :: rest =>
    if 0 < weight d ∧ weight d < weight c then d :: place c rest else c :: d :: rest

/-- Puts the marks between two characters of no weight in order. -/
def order : List Char → List Char
  | [] => []
  | c :: rest => place c (order rest)

/-! ## Joining -/

/-- The character that two others make. -/
def join? (a b : Char) : Option Char := (syllable? a b).or (pairs.source? [a, b])

/-- Joins what can be joined to a character of no weight; `between` holds the marks that could not be
joined to it, the last one first. -/
def joinTo (start : Char) (between : List Char) : List Char → List Char
  | [] => start :: between.reverse
  | c :: rest =>
    let inReach := match between with
      | [] => true
      | mark :: _ => weight mark < weight c
    match if inReach then join? start c else none with
    | some joined => joinTo joined between rest
    | none =>
      if weight c = 0 then start :: between.reverse ++ joinTo c [] rest
      else joinTo start (c :: between) rest

/-- Joins what can be joined in a text. -/
def joinAll : List Char → List Char
  | [] => []
  | c :: rest => if weight c = 0 then joinTo c [] rest else c :: joinAll rest

end ClusterBootstrap.Text.Composition

namespace ClusterBootstrap.Text

/-- The composed form of a text.  ASCII text is in its composed form. -/
def compose (text : List Char) : List Char :=
  if text.all (·.toNat < 0x80) then text
  else Composition.joinAll (Composition.order (Composition.decompose text))

end ClusterBootstrap.Text
