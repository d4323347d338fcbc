/-
Numbers in documents. Digits may be grouped by single underscores, decimal numbers have no zeros in
front, and a real number has digits on both sides of its point. What is written like a number may
still have no value: it may be too large, or have no digits after the mark of its base.
-/
import BufferScope.Decimal.Reading
import BufferScope.Toml.Text
import BufferScope.Toml.Value

namespace BufferScope.Toml

/-! ## Digits -/

/-- Whether a character is a digit of the given base. -/
def isDigitOf (base : Nat) (c : Char) : Bool :=
  match Text.hexDigit? c with
  | some d => d < base
  | none => false

/-- The whole number that digits of the given base spell. -/
def ofDigits (base : Nat) (digits : List Char) : Nat :=
  digits.foldl (fun n c => base * n + (Text.hexDigit? c).getD 0) 0

/-- Takes a sign off. -/
def unsigned : List Char → Bool × List Char
  | '-' :: rest => (true, rest)
  | '+' :: rest => (false, rest)
  | rest => (false, rest)

/-! ## Groups -/

/-- Whether each underscore stands between two digits; `digit` tells whether one came before. -/
def isGroupedAfter (isDigit : Char → Bool) (digit : Bool) : List Char → Bool
  | [] => true
  | ['_'] => false
  | '_' :: c :: rest => digit && isDigit c && isGroupedAfter isDigit true rest
  | c :: rest => isGroupedAfter isDigit (isDigit c) rest

/-- Whether underscores stand between digits only. -/
def isGrouped (isDigit : Char → Bool) (cs : List Char) : Bool := isGroupedAfter isDigit false cs

/-- Drops the underscores. -/
def ungrouped (cs : List Char) : List Char := cs.filter (· ≠ '_')

/-! ## Numerals -/

/-- A whole number of at most 128 bits. -/
def boundedWhole (n : Int) : Value :=
  if -(Nat.pow 2 127 : Nat) ≤ n && n < (Nat.pow 2 128 : Nat) then .whole n else .valueless

/-- A whole number in the base that its mark named. -/
def radixNumeral (base : Nat) (digits : List Char) : Option Value :=
  if !(digits.all fun c => isDigitOf base c || c = '_') then none
  else if !(isGrouped (isDigitOf 16) digits) then none
  else if digits = [] then some .valueless
  else some (boundedWhole (ofDigits base (ungrouped digits)))

/-- A whole number in base ten. Where there are groups, the characters inside them are not looked at,
and the numeral has no value if one of them is no digit. -/
def decimalNumeral (cs : List Char) : Option Value :=
  let (negative, rest) := unsigned cs
  let digits := ungrouped rest
  let value : Int := ofDigits 10 digits
  if !(isGrouped (isDigitOf 16) cs) then none
  else if rest.head? = some '0' && rest ≠ ['0'] then none
  else if digits.all Char.isDigit then some (boundedWhole (if negative then -value else value))
  else some .valueless

/-- The exponent of a real number, after its mark. It may have zeros in front. -/
def exponent? (cs : List Char) : Option Int :=
  let (negative, digits) := unsigned cs
  if digits ≠ [] && digits.all Char.isDigit then
    let n := Int.ofNat (ofDigits 10 digits)
    some (if negative then -n else n)
  else none

/-- A real number without its sign. It has a point, or an exponent, or both. -/
def magnitude? (cs : List Char) : Option Float :=
  let (whole, rest) := cs.span Char.isDigit
  if whole = [] || (whole.head? = some '0' && whole ≠ ['0']) then none
  else match rest with
    | '.' :: rest =>
      let (places, rest) := rest.span Char.isDigit
      let digits := ofDigits 10 (whole ++ places)
      if places = [] then none
      else match rest with
        | [] => some (Decimal.nearest digits (-places.length))
        | 'e' :: rest | 'E' :: rest => (exponent? rest).map fun e => Decimal.nearest digits (e - places.length)
        | _ => none
    | 'e' :: rest | 'E' :: rest => (exponent? rest).map fun e => Decimal.nearest (ofDigits 10 whole) e
    | _ => none

/-- A real number. One too large for a double has no value. -/
def realNumeral (cs : List Char) : Option Value :=
  let (negative, rest) := unsigned cs
  if !(isGrouped Char.isDigit cs) then none
  else (magnitude? (ungrouped rest)).map fun x =>
    if x.isFinite then .real (if negative then -x else x) else .valueless

/-- A number that its name spells, or the characters of its numeral. Signs do not go with the mark of
a base. -/
def readNumeral (cs : List Char) : Option Value :=
  match cs with
  | '0' :: 'x' :: rest => radixNumeral 16 rest
  | '0' :: 'o' :: rest => radixNumeral 8 rest
  | '0' :: 'b' :: rest => radixNumeral 2 rest
  | _ =>
    let (negative, rest) := unsigned cs
    match rest with
    | ['i', 'n', 'f'] => some (.real (if negative then -1 / 0 else 1 / 0))
    | ['n', 'a', 'n'] => some (.real (if negative then -(0 / 0) else 0 / 0))
    | _ =>
      match rest.dropWhile Char.isDigit with
      | [] => if rest = [] then none else decimalNumeral cs
      | c :: after =>
        if c = '-' || c = ':' then none
        else if (c :: after).any fun c => c = '.' || c = 'e' || c = 'E' then realNumeral cs
        else if c = '_' then decimalNumeral cs
        else none

end BufferScope.Toml
