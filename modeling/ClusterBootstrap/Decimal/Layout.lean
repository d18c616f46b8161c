import ClusterBootstrap.Decimal.Shortest

/-!
# Layouts of decimal numbers

A layout says how a decimal is written: for which positions of the point it is written out in full,
whether a whole number keeps a fraction of zero, and how the others get an exponent.
-/

namespace ClusterBootstrap.Decimal

/-- How decimals are written.  The *point* of a decimal is the number of digits before its point
when it is written out, zero or less when it starts with `0.`. -/
structure Layout where
  /-- The least point that is written out; `none` sets no bound. -/
  leastPoint : Option Int
  /-- The greatest point that is written out; `none` sets no bound. -/
  greatestPoint : Option Int
  /-- Whether a whole number that is written out ends in `.0`. -/
  wholeFraction : Bool

namespace Layout

/-- JSON documents: written out from `0.00001` to sixteen digits, and always seen to be no integer. -/
def json : Layout := ⟨some (-4), some 16, true⟩

/-- Plain text: always written out, whole numbers without a fraction. -/
def plain : Layout := ⟨none, none, false⟩

/-- Whether a decimal with this point is written out in full. -/
def writesOut (layout : Layout) (point : Int) : Bool :=
  layout.leastPoint.all (· ≤ point) && layout.greatestPoint.all (point ≤ ·)

/-- The digits written out with the point at its place. -/
def writtenOut (layout : Layout) (digits : List Char) (point : Int) : List Char :=
  if point ≤ 0 then
    '0' :: '.' :: (List.replicate (-point).toNat '0' ++ digits)
  else if point.toNat < digits.length then
    digits.take point.toNat ++ '.' :: digits.drop point.toNat
  else
    digits ++ List.replicate (point.toNat - digits.length) '0' ++
      (if layout.wholeFraction then ['.', '0'] else [])

/-- One digit before the point and a signed power of ten. -/
def scientific (digits : List Char) (point : Int) : List Char :=
  let power := point - 1
  let sign := if power < 0 then '-' else '+'
  let mantissa := match digits with
    | [] => []
    | [d] => [d]
    | d :: ds => d :: '.' :: ds
  mantissa ++ 'e' :: sign :: Nat.toDigits 10 power.natAbs

/-- The text of a decimal. -/
def text (layout : Layout) (d : Numeral) : String :=
  let sign := if d.negative then ['-'] else []
  let digits := Nat.toDigits 10 d.digits
  let body :=
    if d.digits = 0 then '0' :: (if layout.wholeFraction then ['.', '0'] else [])
    else
      let point := digits.length + d.exponent
      if layout.writesOut point then layout.writtenOut digits point else scientific digits point
  String.ofList (sign ++ body)

end Layout

/-- A number in plain text: infinities and the undefined value have names, the rest is written out
with the fewest digits that read back. -/
def plainText (x : Float) : String :=
  if x.isNaN then "NaN"
  else if x.isInf then (if x < 0 then "-inf" else "inf")
  else Layout.plain.text (shortest x)

/-- A finite number in a JSON document. -/
def jsonText (x : Float) : String :=
  Layout.json.text (shortest x)

end ClusterBootstrap.Decimal
