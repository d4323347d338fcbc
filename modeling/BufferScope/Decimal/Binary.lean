/-
Double-precision numbers taken apart: every one is a NaN, an infinity, or a whole number times a
power of two with a sign.
-/
namespace BufferScope.Decimal

/-- What a double-precision number stands for. A finite number is `±mantissa · 2^exponent`. -/
inductive Parts where
  | nan
  | infinite (negative : Bool)
  | finite (negative : Bool) (mantissa : Nat) (exponent : Int)
  deriving DecidableEq, Repr

/-- Takes the 64 bits of a double apart: a sign, 11 bits of exponent, 52 bits of fraction. -/
def Parts.ofBits (bits : Nat) : Parts :=
  let negative := bits / 0x8000000000000000 % 2 == 1
  let biased : Nat := bits / 0x10000000000000 % 0x800
  let fraction : Nat := bits % 0x10000000000000
  if biased = 2047 then
    if fraction = 0 then .infinite negative else .nan
  else if biased = 0 then .finite negative fraction (-1074)
  else .finite negative (0x10000000000000 + fraction) (Int.ofNat biased - 1075)

def Parts.ofFloat (x : Float) : Parts := .ofBits x.toBits.toNat

end BufferScope.Decimal
