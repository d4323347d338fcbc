/-
The fewest digits that read back: of all decimals that round to a given double, the ones with the
fewest significant digits, and of those the one nearest to it.
-/
import BufferScope.Decimal.Binary

namespace BufferScope.Decimal

/-- A positive decimal `digits · 10^exponent`. -/
structure Scientific where
  digits : Nat
  exponent : Int
  deriving DecidableEq, Repr

/-- `num · 10^shift / den` as a pair of whole numbers. -/
def scaled (num den : Nat) (shift : Int) : Nat × Nat :=
  if 0 ≤ shift then (num * Nat.pow 10 shift.toNat, den) else (num, den * Nat.pow 10 (-shift).toNat)

/-- `mantissa · 2^exponent` as a pair of whole numbers. -/
def ratio (mantissa : Nat) (exponent : Int) : Nat × Nat :=
  if 0 ≤ exponent then (mantissa * Nat.pow 2 exponent.toNat, 1) else (mantissa, Nat.pow 2 (-exponent).toNat)

/-- Whether `10^e ≤ num / den`. -/
def powerAtMost (e : Int) (num den : Nat) : Bool :=
  let (n, d) := scaled num den (-e)
  d ≤ n

/-- The `e` with `10^e ≤ num / den < 10^(e+1)`, for positive `num` and `den`. The binary logarithms
give a first guess that is at most two away. -/
def decimalExponent (num den : Nat) : Int :=
  let guess := ((num.log2 : Int) - den.log2) * 1233 / 4096
  if powerAtMost (guess + 2) num den then guess + 2
  else if powerAtMost (guess + 1) num den then guess + 1
  else if powerAtMost guess num den then guess
  else if powerAtMost (guess - 1) num den then guess - 1
  else guess - 2

/-- The decimals that round to a double lie between `low / den` and `high / den`; the ends belong
to them when the mantissa is even, because ties go to even. -/
structure Interval where
  low : Nat
  high : Nat
  den : Nat
  closed : Bool

/-- The gap below a power of two is half the gap above it, except among the smallest numbers. -/
def Interval.around (mantissa : Nat) (exponent : Int) : Interval :=
  let below := if mantissa = 0x10000000000000 ∧ -1074 < exponent then 1 else 2
  let (low, den) := ratio (4 * mantissa - below) (exponent - 2)
  let (high, _) := ratio (4 * mantissa + 2) (exponent - 2)
  ⟨low, high, den, mantissa % 2 == 0⟩

/-- Whether `digits · 10^exponent` lies in the interval. -/
def Interval.contains (i : Interval) (digits : Nat) (exponent : Int) : Bool :=
  let (n, d) := scaled digits 1 exponent
  let value := n * i.den
  if i.closed then i.low * d ≤ value && value ≤ i.high * d
  else i.low * d < value && value < i.high * d

/-- The decimal with last place `10^exponent` that lies in the interval and nearest to `num / den`,
if the two next to `num / den` are not both outside. Halfway between them the upper one is taken. -/
def nearestWithin (i : Interval) (num den : Nat) (exponent : Int) : Option Scientific :=
  let (n, d) := scaled num den (-exponent)
  let lower := n / d
  let upper := lower + 1
  let lowerFirst := 2 * (n % d) < d
  let (first, second) := if lowerFirst then (lower, upper) else (upper, lower)
  if i.contains first exponent then some ⟨first, exponent⟩
  else if i.contains second exponent then some ⟨second, exponent⟩
  else none

/-- Drops the zeros at the end of the digits. -/
def Scientific.stripped (s : Scientific) : Nat → Scientific
  | 0 => s
  | fuel + 1 =>
    if s.digits ≠ 0 ∧ s.digits % 10 = 0 then Scientific.stripped ⟨s.digits / 10, s.exponent + 1⟩ fuel else s

/-- The fewest digits that read back as `mantissa · 2^exponent`, for a positive mantissa. Seventeen
digits are always enough, so the search over the digit counts finds one. -/
def shortest (mantissa : Nat) (exponent : Int) : Scientific :=
  let (num, den) := ratio mantissa exponent
  let interval := Interval.around mantissa exponent
  let top := decimalExponent num den
  let found := (List.range 17).findSome? fun (k : Nat) => nearestWithin interval num den (top - k)
  (found.getD ⟨num, 0⟩).stripped 17

end BufferScope.Decimal
