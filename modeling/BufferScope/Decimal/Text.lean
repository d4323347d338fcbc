/-
Texts of numbers: shortest digits laid out by a `Layout`. Messages use `plain`, which never has an
exponent; logs use `marked`, which tells a real number from a whole one.
-/
import BufferScope.Decimal.Shortest

namespace BufferScope.Decimal

/-- The decisions of a number format for numbers `0.d₁d₂… · 10^point`. -/
structure Layout where
  /-- Whether a number with this place of its point is written without an exponent. -/
  positional : Int → Bool
  /-- What follows a whole number. -/
  wholeTail : String

/-- Digits with a point in its place and no exponent. -/
def positionalText (digits : String) (point : Int) (wholeTail : String) : String :=
  if point ≤ 0 then "0." ++ "".pushn '0' (-point).toNat ++ digits
  else if digits.length ≤ point.toNat then digits ++ "".pushn '0' (point.toNat - digits.length) ++ wholeTail
  else (digits.take point.toNat).toString ++ "." ++ (digits.drop point.toNat).toString

/-- One digit before the point, and an exponent. -/
def exponentText (digits : String) (point : Int) : String :=
  let rest := (digits.drop 1).toString
  (digits.take 1).toString ++ (if rest.isEmpty then "" else "." ++ rest) ++ "e" ++ toString (point - 1)

/-- The text of a number under a layout. -/
def Layout.text (layout : Layout) (x : Float) : String :=
  match Parts.ofFloat x with
  | .nan => "NaN"
  | .infinite negative => if negative then "-inf" else "inf"
  | .finite negative mantissa exponent =>
    let sign := if negative then "-" else ""
    if mantissa = 0 then sign ++ "0" ++ layout.wholeTail
    else
      let s := shortest mantissa exponent
      let digits := toString s.digits
      let point := s.exponent + digits.length
      if layout.positional point then sign ++ positionalText digits point layout.wholeTail
      else sign ++ exponentText digits point

/-- Messages never show an exponent. -/
def plain : Layout := ⟨fun _ => true, ""⟩

/-- Logs show an exponent below `1e-4` and from `1e16` on, and mark whole numbers by `.0`. -/
def marked : Layout := ⟨fun point => -4 < point && point ≤ 16, ".0"⟩

end BufferScope.Decimal
