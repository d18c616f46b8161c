import ClusterBootstrap.Decimal.Digits

/-!
# Reading decimal numbers

Two ways of reading a decimal into a binary64 number live here.  `parse?` rounds correctly and is
used for configuration files and variables.  `ofParts?` is the reading of JSON documents: a word-sized
significand is converted and then multiplied or divided by one power of ten, which may be off by a
unit in the last place, and a number too large to represent is refused.
-/

namespace ClusterBootstrap.Decimal

/-- `10 ^ n`, rounded to nearest. -/
def powerOfTen (n : Nat) : Float :=
  Float.ofScientific 1 false n

/-- The correctly rounded value of `digits * 10 ^ exponent`.  Exponents far outside the range are
settled by the position of the leading digit alone. -/
def ofDigits (digits : Nat) (exponent : Int) : Float :=
  if digits = 0 then 0
  else
    let leading := (Nat.toDigits 10 digits).length + exponent
    if 400 < leading then Float.ofBits 0x7ff0000000000000
    else if leading < -400 then 0
    else if exponent < 0 then Float.ofScientific digits true exponent.natAbs
    else Float.ofScientific digits false exponent.toNat

/-- The significand times a power of ten, by one multiplication or repeated division; `none` when
the result leaves the range.  The divisor `10 ^ 308` is the largest power that can be represented. -/
def ofParts? (significand : UInt64) (exponent : Int) : Option Float :=
  let f := significand.toFloat
  if 0 ≤ exponent then
    if exponent ≤ 308 then
      let r := f * powerOfTen exponent.toNat
      if r.isInf then none else some r
    else if significand = 0 then some f
    else none
  else
    some (divide f exponent.natAbs 3)
where
  /-- Division by `10 ^ n`, in steps of `10 ^ 308`; three steps empty every word-sized number. -/
  divide (f : Float) (n : Nat) : Nat → Float
    | 0 => 0
    | fuel + 1 =>
      if n ≤ 308 then f / powerOfTen n
      else if f == 0 then f
      else divide (f / powerOfTen 308) (n - 308) fuel

/-- Reads an exponent part: `e` or `E`, an optional sign and at least one digit, up to the end. -/
def exponent? : List Char → Option Int
  | [] => some 0
  | e :: cs =>
    if e = 'e' ∨ e = 'E' then
      let (negative, ds) := match cs with
        | '-' :: ds => (true, ds)
        | '+' :: ds => (false, ds)
        | ds => (false, ds)
      (natural? ds).map fun n => if negative then -(n : Int) else n
    else none

/-- Reads an unsigned number: digits with an optional point, at least one digit in all, and an
optional exponent; or the name of infinity or of the undefined value in any case. -/
def unsigned? (cs : List Char) : Option Float :=
  let name := String.ofList (cs.map Char.toLower)
  if name = "inf" ∨ name = "infinity" then some (Float.ofBits 0x7ff0000000000000)
  else if name = "nan" then some (Float.ofBits 0x7ff8000000000000)
  else
    let (whole, rest) := spanDigits cs
    let (fraction, rest) := match rest with
      | '.' :: rest => spanDigits rest
      | rest => ([], rest)
    if whole.isEmpty && fraction.isEmpty then none
    else
      (exponent? rest).map fun e =>
        ofDigits (digitsValue (whole ++ fraction)) (e - fraction.length)

/-- Reads a number with an optional sign, correctly rounded. -/
def parse? (s : String) : Option Float :=
  match s.toList with
  | '-' :: cs => (unsigned? cs).map (- ·)
  | '+' :: cs => unsigned? cs
  | cs => unsigned? cs

end ClusterBootstrap.Decimal
