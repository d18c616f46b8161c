/-!
# Punycode

Punycode writes a label with any characters in lower-case letters, digits and hyphens.  The ASCII characters
come first, with a hyphen behind them if there are any.  The others follow as numbers, in the order of their
code points: each number says how far to go from one place for a character to the next, where the places in
the label come round again for every code point.  The digits of a number have weights that depend on the
numbers before it.
-/

namespace ClusterBootstrap.Net.Punycode

/-! ## Digits -/

/-- The digit of a value below 36: letters first. -/
def digit (n : Nat) : Char :=
  if n < 26 then Char.ofNat (97 + n) else Char.ofNat (48 + (n - 26))

/-- The value of a digit of either case. -/
def digitValue? (c : Char) : Option Nat :=
  if c.isDigit then some (c.toNat - 48 + 26)
  else if c.isAlpha then some (c.toLower.toNat - 97)
  else none

/-- What a digit must be below to end its number, `k` being 36 times its place counted from one. -/
def threshold (bias k : Nat) : Nat := if k ≤ bias then 1 else min 26 (k - bias)

/-! ## Biases -/

/-- The bias at the start. -/
def firstBias : Nat := 72

/-- Divides a number until its last digit is left, and counts the divisions. -/
def reduce (delta k : Nat) : Nat → Nat × Nat
  | 0 => (delta, k)
  | rounds + 1 => if 455 < delta then reduce (delta / 35) (k + 36) rounds else (delta, k)

/-- The bias behind a number in a label of so many characters, so that the next number needs few
digits. -/
def adapt (delta count : Nat) (first : Bool) : Nat :=
  let delta := if first then delta / 700 else delta / 2
  let (delta, k) := reduce (delta + delta / count) 0 32
  k + 36 * delta / (delta + 38)

/-! ## Encoding -/

/-- The digits of a number. -/
def digits (bias q k : Nat) : Nat → List Char
  | 0 => []
  | rounds + 1 =>
    let t := threshold bias k
    if q < t then [digit q]
    else digit (t + (q - t) % (36 - t)) :: digits bias ((q - t) / (36 - t)) (k + 36) rounds

/-- What the encoder carries from one character to the next. -/
structure Encoder where
  delta : Nat
  bias : Nat
  handled : Nat
  output : List Char

/-- One pass over the label for the code point `n`. -/
def encodePass (label : List Nat) (n basic : Nat) (e : Encoder) : Encoder :=
  let e := label.foldl
    (fun e c =>
      if c < n then { e with delta := e.delta + 1 }
      else if c = n then
        { delta := 0
          bias := adapt e.delta (e.handled + 1) (e.handled = basic)
          handled := e.handled + 1
          output := e.output ++ digits e.bias e.delta 36 64 }
      else e) e
  { e with delta := e.delta + 1 }

/-- Encodes the code points from `n` on, smallest first. -/
def encodeFrom (label : List Nat) (basic n : Nat) (e : Encoder) : Nat → Encoder
  | 0 => e
  | rounds + 1 =>
    match (label.filter (n ≤ ·)).min? with
    | none => e
    | some next =>
      let e := { e with delta := e.delta + (next - n) * (e.handled + 1) }
      encodeFrom label basic (next + 1) (encodePass label next basic e) rounds

/-- Writes a label in Punycode. -/
def encode (label : List Char) : List Char :=
  let basic := label.filter (·.toNat < 0x80)
  let start := if basic = [] then [] else basic ++ ['-']
  (encodeFrom (label.map Char.toNat) basic.length 0x80
    { delta := 0, bias := firstBias, handled := basic.length, output := start }
    (label.length + 1)).output

/-! ## Decoding -/

/-- Numbers are below this bound. -/
def numberBound : Nat := 0x100000000

/-- Reads a number and adds it to `place`. -/
def addNumber? (bias k weight place : Nat) : List Char → Option (Nat × List Char)
  | [] => none
  | c :: rest => do
    let value ← digitValue? c
    let place := place + value * weight
    if numberBound ≤ place then none
    let t := threshold bias k
    if value < t then return (place, rest)
    let weight := weight * (36 - t)
    if numberBound ≤ weight then none
    addNumber? bias (k + 36) weight place rest

/-- Inserts characters into a label, as long as there are numbers. -/
def insertAll? (label : List Char) (codePoint place bias : Nat) :
    Nat → List Char → Option (List Char)
  | _, [] => some label
  | 0, _ :: _ => none
  | rounds + 1, text => do
    let (sum, rest) ← addNumber? bias 36 1 place text
    let count := label.length + 1
    let codePoint := codePoint + sum / count
    let position := sum % count
    if ¬ codePoint.isValidChar then none
    insertAll? (label.insertIdx position (Char.ofNat codePoint)) codePoint (position + 1)
      (adapt (sum - place) count (place = 0)) rounds rest

/-- Reads a label in Punycode, in either case; its ASCII characters come out in lower case. -/
def decode? (text : List Char) : Option (List Char) :=
  let numbers := (text.reverse.takeWhile (· ≠ '-')).reverse
  let basic := text.take (text.length - numbers.length - 1)
  -- a hyphen at the very start divides nothing
  let numbers := if basic = [] then text else numbers
  insertAll? (basic.map Char.toLower) 0x80 0 firstBias numbers.length numbers

end ClusterBootstrap.Net.Punycode
