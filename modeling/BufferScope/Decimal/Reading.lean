/-
Decimal numbers read as doubles: digits with an optional point and an optional exponent, or a name
for infinity or for no number.
-/
namespace BufferScope.Decimal

/-- The number that decimal digits spell. -/
def natOfDigits (digits : List Char) : Nat := digits.foldl (fun n c => 10 * n + (c.toNat - '0'.toNat)) 0

/-- The double nearest to `digits · 10^exponent`. Beyond 400 places on either side the result is
infinite or zero, whatever the digits are. -/
def nearest (digits : Nat) (exponent : Int) : Float :=
  let top := exponent + (Nat.toDigits 10 digits).length
  if digits = 0 then 0
  else if 400 < top then 1 / 0
  else if top < -400 then 0
  else Float.ofScientific digits (exponent < 0) exponent.natAbs

/-- An exponent: digits after an optional sign. -/
def readExponent (text : List Char) : Option Int :=
  let unsigned (digits : List Char) : Option Nat :=
    if digits ≠ [] && digits.all Char.isDigit then some (natOfDigits digits) else none
  match text with
  | '-' :: digits => (unsigned digits).map fun n => -(n : Int)
  | '+' :: digits => (unsigned digits).map Int.ofNat
  | digits => (unsigned digits).map Int.ofNat

/-- A number without a sign. There must be a digit before or after the point. -/
def readMagnitude (text : List Char) : Option Float :=
  let (whole, rest) := text.span Char.isDigit
  let (places, rest) := match rest with
    | '.' :: rest => rest.span Char.isDigit
    | _ => ([], rest)
  let digits := natOfDigits (whole ++ places)
  if whole = [] && places = [] then none
  else match rest with
    | [] => some (nearest digits (-places.length))
    | 'e' :: rest | 'E' :: rest => (readExponent rest).map fun e => nearest digits (e - places.length)
    | _ => none

/-- The infinities and the NaN by name. Letter case does not matter. -/
def readName (text : List Char) : Option Float :=
  match String.ofList (text.map Char.toLower) with
  | "inf" | "infinity" => some (1 / 0)
  | "nan" => some (0 / 0)
  | _ => none

/-- The double that a text spells, after an optional sign. -/
def read? (text : String) : Option Float :=
  let unsigned (text : List Char) : Option Float := readMagnitude text <|> readName text
  match text.toList with
  | '-' :: rest => (unsigned rest).map (- ·)
  | '+' :: rest => unsigned rest
  | rest => unsigned rest

end BufferScope.Decimal
