/-!
# The shortest decimal of a binary number

A finite binary64 number stands for every real number that rounds to it.  These reals form an
interval, whose ends belong to it exactly when the significand is even.  The shortest decimal of the
number is the point of that interval on the coarsest grid of a power of ten that has one; of two such
points the nearer one is taken, and of two equally near ones the even one.

Everything is computed in exact integer arithmetic on the decoded bits.
-/

namespace ClusterBootstrap.Decimal

/-- A number `digits * 10 ^ exponent` with a sign of its own, so that negative zero can be told. -/
structure Numeral where
  negative : Bool
  digits : Nat
  exponent : Int
  deriving DecidableEq, Repr

/-- A positive binary number `significand * 2 ^ exponent`, and whether the gap to its lower neighbour
is half the gap to its upper one, as it is at a power of two. -/
structure Binary where
  significand : Nat
  exponent : Int
  narrowBelow : Bool
  deriving DecidableEq, Repr

namespace Binary

/-- The leading bit of a full significand, which is not written. -/
def implicitBit : Nat := 0x10000000000000

/-- Decodes the fields of a binary64 word other than its sign. -/
def ofBits (bits : Nat) : Binary :=
  let fraction : Nat := bits % implicitBit
  let biased : Nat := bits / implicitBit % 2048
  if biased = 0 then ⟨fraction, -1074, false⟩
  else ⟨fraction + implicitBit, biased - 1075, fraction = 0 && 1 < biased⟩

/-- The multiples of `10 ^ k` that lie in the interval of reals rounding to `b`, of the two around
`b` itself, with the nearer one chosen. -/
def gridPoint? (b : Binary) (k : Int) : Option Nat :=
  -- one unit is a quarter of the gap to the upper neighbour
  let unitExp := b.exponent - 2
  let scale := Nat.pow 2 unitExp.toNat * Nat.pow 10 (-k).toNat
  let step := Nat.pow 10 k.toNat * Nat.pow 2 (-unitExp).toNat
  let value := 4 * b.significand * scale
  let low := (4 * b.significand - if b.narrowBelow then 1 else 2) * scale
  let high := (4 * b.significand + 2) * scale
  let closed := b.significand % 2 = 0
  let inside (n : Nat) : Bool :=
    let x := n * step
    if closed then low ≤ x && x ≤ high else low < x && x < high
  let below := value / step
  let above := below + 1
  match inside below && 0 < below, inside above with
  | true, true =>
    let down := value - below * step
    let up := above * step - value
    some (if down < up then below
      else if up < down then above
      else if below % 2 = 0 then below else above)
  | true, false => some below
  | false, true => some above
  | false, false => none

/-- Looks for a grid with a point, from `10 ^ k` to ever finer ones. -/
def search (b : Binary) (k : Int) : Nat → Nat × Int
  | 0 => (b.significand, b.exponent)
  | fuel + 1 =>
    match b.gridPoint? k with
    | some n => (n, k)
    | none => b.search (k - 1) fuel

/-- A power of ten above the number: its number of binary digits times `log₁₀ 2`, rounded up. -/
def startExponent (b : Binary) : Int :=
  (b.significand.log2 + 1 + b.exponent) * 30103 / 100000 + 1

/-- The coarsest grid lies at most twenty places below the leading digit. -/
def shortest (b : Binary) : Nat × Int :=
  b.search b.startExponent 24

end Binary

/-- The shortest decimal that reads back as the given finite number. -/
def shortest (x : Float) : Numeral :=
  let bits := x.toBits.toNat
  let negative := bits / 0x8000000000000000 = 1
  let b := Binary.ofBits bits
  if b.significand = 0 then ⟨negative, 0, 0⟩
  else
    let (digits, exponent) := b.shortest
    ⟨negative, digits, exponent⟩

end ClusterBootstrap.Decimal
