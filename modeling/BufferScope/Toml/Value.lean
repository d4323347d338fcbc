/-
The values of a configuration document, and the tables that its lines build up. How a table came
about decides what may still be added to it: an inline table is complete, a header opens a table
once, and a dotted key adds only to tables that dotted keys made.
-/
namespace BufferScope.Toml

/-- How a table came about. -/
inductive Origin where
  /-- Written in braces. -/
  | inline
  /-- Opened by its own header, or the document itself. -/
  | header
  /-- Named on the way to another header. -/
  | implied
  /-- Named on the way to a dotted key. -/
  | dotted
  deriving DecidableEq, Repr

inductive Value where
  | text (text : String)
  | whole (number : Int)
  | real (number : Float)
  /-- A numeral that stands for no number, because it is too large or has no digits. -/
  | valueless
  | boolean (value : Bool)
  /-- A date, a time, or both. -/
  | moment (text : String)
  /-- An array. A growing one has an element per header. -/
  | list (growing : Bool) (items : List Value)
  | table (origin : Origin) (entries : List (String × Value))

/-- The entries of a table, in the order they were made. -/
abbrev Entries := List (String × Value)

mutual

/-- Whether all numerals in a value stand for numbers. -/
def Value.isSound : Value → Bool
  | .valueless => false
  | .list _ items => itemsSound items
  | .table _ entries => entriesSound entries
  | _ => true

/-- Whether all numerals in the items of an array stand for numbers. -/
def itemsSound : List Value → Bool
  | [] => true
  | item :: rest => item.isSound && itemsSound rest

/-- Whether all numerals in the entries of a table stand for numbers. -/
def entriesSound : List (String × Value) → Bool
  | [] => true
  | (_, v) :: rest => v.isSound && entriesSound rest

end

namespace Entries

/-- The value of a key. -/
def get? (es : Entries) (key : String) : Option Value := (es.find? (·.1 == key)).map (·.2)

/-- Changes the value of a key, or makes its entry. -/
def alter (key : String) (change : Option Value → Option Value) : Entries → Option Entries
  | [] => (change none).map fun v => [(key, v)]
  | (k, v) :: rest =>
    if k = key then (change (some v)).map fun v => (k, v) :: rest
    else (alter key change rest).map ((k, v) :: ·)

/-- Changes the entries of the last table of an array. -/
def alterLast (change : Entries → Option Entries) : List Value → Option (List Value)
  | [] => none
  | [.table origin inner] => (change inner).map fun inner => [.table origin inner]
  | item :: rest => (alterLast change rest).map (item :: ·)

/-- Makes an entry that was not there. -/
def fresh (value : Value) : Option Value → Option Value
  | none => some value
  | some _ => none

/-- Puts a value at a dotted key. -/
def put (value : Value) : List String → Entries → Option Entries
  | [], _ => none
  | [key], es => es.alter key (fresh value)
  | key :: next :: path, es =>
    let further : Bool := path ≠ []
    es.alter key fun
      | none => (put value (next :: path) []).map (.table .dotted)
      | some (.table .dotted inner) => (put value (next :: path) inner).map (.table .dotted)
      | some (.table .implied inner) =>
        if further then (put value (next :: path) inner).map (.table .implied) else none
      | some (.list true items) =>
        if further then (alterLast (put value (next :: path)) items).map (.list true) else none
      | some _ => none

/-- Goes into the table with a key, on the way to the table of a header. -/
def enter (change : Entries → Option Entries) : Option Value → Option Value
  | none => (change []).map (.table .implied)
  | some (.table .inline _) => none
  | some (.table origin inner) => (change inner).map (.table origin)
  | some (.list true items) => (alterLast change items).map (.list true)
  | some _ => none

/-- Changes the table that a header opened. -/
def alterAt (change : Entries → Option Entries) : List String → Entries → Option Entries
  | [], es => change es
  | key :: path, es => es.alter key (enter (alterAt change path))

/-- Opens the table of a header. Only a table that no header opened yet, and that no dotted key
made, can be opened. -/
def openTable : Option Value → Option Value
  | none => some (.table .header [])
  | some (.table .implied inner) => some (.table .header inner)
  | some _ => none

/-- Opens the next element of the array of a header. -/
def openElement : Option Value → Option Value
  | none => some (.list true [.table .header []])
  | some (.list true items) => some (.list true (items ++ [.table .header []]))
  | some _ => none

/-- Changes the entry at the end of a header's path. -/
def alterEntry (change : Option Value → Option Value) : List String → Entries → Option Entries
  | [], _ => none
  | [key], es => es.alter key change
  | key :: next :: path, es => es.alter key (enter (alterEntry change (next :: path)))

end Entries

end BufferScope.Toml
