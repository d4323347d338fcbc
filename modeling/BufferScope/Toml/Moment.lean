/-
Dates and times in documents: a date, a time of day, or both with a `T` between them and perhaps an
offset. Seconds may be left out.
-/
namespace BufferScope.Toml

/-- The number that `count` digits in front spell, and the rest. -/
def fixedDigits (count : Nat) (cs : List Char) : Option (Nat × List Char) :=
  let digits := cs.take count
  if digits.length = count && digits.all Char.isDigit then
    some (digits.foldl (fun n c => 10 * n + (c.toNat - '0'.toNat)) 0, cs.drop count)
  else none

/-- Takes a given character off. -/
def expect (c : Char) : List Char → Option (List Char)
  | d :: rest => if d = c then some rest else none
  | [] => none

/-- The number of days in a month. -/
def daysIn (year month : Nat) : Nat :=
  if month = 2 then
    if year % 4 = 0 ∧ (year % 100 ≠ 0 ∨ year % 400 = 0) then 29 else 28
  else if month = 4 ∨ month = 6 ∨ month = 9 ∨ month = 11 then 30
  else 31

/-- Passes over a date. -/
def passDate (cs : List Char) : Option (List Char) := do
  let (year, cs) ← fixedDigits 4 cs
  let cs ← expect '-' cs
  let (month, cs) ← fixedDigits 2 cs
  let cs ← expect '-' cs
  let (day, cs) ← fixedDigits 2 cs
  if 1 ≤ month ∧ month ≤ 12 ∧ 1 ≤ day ∧ day ≤ daysIn year month then some cs else none

/-- Passes over the parts of a second. -/
def passFraction : List Char → Option (List Char)
  | '.' :: d :: rest => if d.isDigit then some (rest.dropWhile Char.isDigit) else none
  | '.' :: [] => none
  | rest => some rest

/-- Passes over a time of day. A minute may have a leap second. -/
def passTime (cs : List Char) : Option (List Char) := do
  let (hour, cs) ← fixedDigits 2 cs
  let cs ← expect ':' cs
  let (minute, cs) ← fixedDigits 2 cs
  if hour ≤ 23 ∧ minute ≤ 59 then
    match cs with
    | ':' :: cs =>
      let (second, cs) ← fixedDigits 2 cs
      if second ≤ 60 then passFraction cs else none
    | cs => some cs
  else none

/-- Passes over an offset, if there is one. -/
def passOffset : List Char → Option (List Char)
  | 'Z' :: rest => some rest
  | 'z' :: rest => some rest
  | sign :: rest =>
    if sign = '+' ∨ sign = '-' then do
      let (hour, cs) ← fixedDigits 2 rest
      let cs ← expect ':' cs
      let (minute, cs) ← fixedDigits 2 cs
      if hour ≤ 23 ∧ minute ≤ 59 then some cs else none
    else some (sign :: rest)
  | [] => some []

/-- Whether the characters are a date, a time, or both. -/
def isMoment (cs : List Char) : Bool :=
  match passDate cs with
  | none => passTime cs == some []
  | some [] => true
  | some (c :: rest) => (c = 'T' || c = 't') && (passTime rest >>= passOffset) == some []

end BufferScope.Toml
