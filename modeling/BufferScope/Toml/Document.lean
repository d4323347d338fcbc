/-
Reading a document: values, then the lines, which are keys with values and the headers of tables.
-/
import BufferScope.Toml.Moment
import BufferScope.Toml.Number
import BufferScope.Toml.Value

namespace BufferScope.Toml

/-- Reads from the front of a text, and leaves the rest. -/
abbrev Reader (α : Type) : Type := StateT (List Char) Option α

/-! ## Blanks and comments -/

def dropBlanks (cs : List Char) : List Char := cs.dropWhile fun c => c == ' ' || c == '\t'

/-- Passes over blanks, line ends and comments. -/
def passSpace (inComment : Bool) : List Char → Option (List Char)
  | [] => some []
  | '\n' :: rest => passSpace false rest
  | '\r' :: '\n' :: rest => passSpace false rest
  | c :: rest =>
    if inComment then if isText c then passSpace true rest else none
    else if c = ' ' || c = '\t' then passSpace false rest
    else if c = '#' then passSpace true rest
    else some (c :: rest)

/-- Passes over the rest of a line that holds no more than blanks and a comment. -/
def passLineEnd (inComment : Bool) : List Char → Option (List Char)
  | [] => some []
  | '\n' :: rest => some rest
  | '\r' :: '\n' :: rest => some rest
  | c :: rest =>
    if inComment then if isText c then passLineEnd true rest else none
    else if c = ' ' || c = '\t' then passLineEnd false rest
    else if c = '#' then passLineEnd true rest
    else none

/-! ## Keys -/

/-- Whether a character may stand in a key without quotes. -/
def isBare (c : Char) : Bool := c.isAlphanum || c = '_' || c = '-'

/-- One name of a key. -/
def readName : Reader String := fun cs =>
  match cs with
  | '"' :: rest => (readBasic rest).map fun (name, rest) => (String.ofList name, rest)
  | '\x27' :: rest => (readLiteral rest).map fun (name, rest) => (String.ofList name, rest)
  | _ =>
    let (name, rest) := cs.span isBare
    if name = [] then none else some (String.ofList name, rest)

/-- At most `bound` names with points between them. -/
def readNames : (bound : Nat) → Reader (List String)
  | 0, _ => none
  | bound + 1, cs => do
    let (name, cs) ← readName (dropBlanks cs)
    match dropBlanks cs with
    | '.' :: cs =>
      let (names, cs) ← readNames bound cs
      some (name :: names, cs)
    | cs => some ([name], cs)

/-- How many names a key may have, and how deep values may nest. -/
def maxDepth : Nat := 80

/-- A key. -/
def readKey : Reader (List String) := readNames maxDepth

/-! ## Values -/

/-- Whether a character ends a word without quotes. -/
def endsWord (c : Char) : Bool :=
  c = ' ' || c = '\t' || c = '\n' || c = '\r' || c = '=' || c = ',' || c = '#' || c = '[' || c = ']'
    || c = '\x7b' || c = '\x7d' || c = '"' || c = '\x27'

/-- The value of a word without quotes. -/
def ofWord (word : List Char) : Option Value :=
  match String.ofList word with
  | "true" => some (.boolean true)
  | "false" => some (.boolean false)
  | text => readNumeral word <|> (if isMoment word then some (.moment text) else none)

/-- A word without quotes. A date and a time may have a single blank between them. -/
def readWord : Reader (List Char) := fun cs =>
  let (word, rest) := cs.span fun c => !endsWord c
  match passDate word, rest with
  | some [], ' ' :: d :: rest =>
    if d.isDigit then
      let (time, rest) := (d :: rest).span fun c => !endsWord c
      some (word ++ 'T' :: time, rest)
    else some (word, ' ' :: d :: rest)
  | _, _ => some (word, rest)

/-- A value that holds no others. -/
def readScalar : Reader Value := fun cs =>
  match cs with
  | '"' :: _ | '\x27' :: _ => (readText cs).map fun (text, rest) => (.text (String.ofList text), rest)
  | _ => do
    let (word, rest) ← readWord cs
    let value ← ofWord word
    some (value, rest)

/-- Items up to the closing character, with commas between them and perhaps one after the last.
`fuel` bounds the number of items. -/
def readItems {α : Type} (item : Reader α) (close : Char) : (fuel : Nat) → Reader (List α)
  | 0, _ => none
  | fuel + 1, cs => do
    match ← passSpace false cs with
    | [] => none
    | c :: cs =>
      if c = close then some ([], cs)
      else
        let (x, cs) ← item (c :: cs)
        match ← passSpace false cs with
        | [] => none
        | c :: cs =>
          if c = close then some ([x], cs)
          else if c = ',' then
            let (xs, cs) ← readItems item close fuel cs
            some (x :: xs, cs)
          else none

/-- A key with its value. `pass` passes over what may stand around the sign between them. -/
def readEntry (pass : List Char → Option (List Char)) (value : Reader Value) : Reader (List String × Value) :=
  fun cs => do
    let (key, cs) ← readKey cs
    match ← pass cs with
    | '=' :: cs =>
      let (v, cs) ← value (← pass cs)
      some ((key, v), cs)
    | _ => none

/-- The table that entries make. -/
def tableOf (entries : List (List String × Value)) : Option Entries :=
  entries.foldlM (fun table (key, v) => table.put v key) []

/-- A value. Arrays and inline tables nest up to the given depth. -/
def readValue : (depth : Nat) → Reader Value
  | 0, cs => readScalar cs
  | depth + 1, cs =>
    match cs with
    | '[' :: rest => (readItems (readValue depth) ']' cs.length rest).map fun (items, rest) => (.list false items, rest)
    | '{' :: rest => do
      let (entries, rest) ← readItems (readEntry (passSpace false) (readValue depth)) '}' cs.length rest
      let table ← tableOf entries
      some (.table .inline table, rest)
    | _ => readScalar cs

/-! ## Lines -/

/-- The tables of the lines read so far, and the path of the header above the next line. -/
structure Draft where
  root : Entries := []
  header : List String := []

/-- The key in a header, up to its closing bracket. -/
def readHeaderKey : Reader (List String) := fun cs => do
  let (key, cs) ← readKey cs
  match cs with
  | ']' :: cs => some (key, cs)
  | _ => none

/-- A line that is not blank, up to what may follow it on the same line. -/
def readLine (d : Draft) (cs : List Char) : Option (Draft × List Char) :=
  match cs with
  | '[' :: '[' :: cs => do
    let (key, cs) ← readHeaderKey cs
    match cs with
    | ']' :: cs =>
      let root ← d.root.alterEntry Entries.openElement key
      some (⟨root, key⟩, cs)
    | _ => none
  | '[' :: cs => do
    let (key, cs) ← readHeaderKey cs
    let root ← d.root.alterEntry Entries.openTable key
    some (⟨root, key⟩, cs)
  | _ => do
    let ((key, v), cs) ← readEntry (some ∘ dropBlanks) (readValue maxDepth) cs
    let root ← d.root.alterAt (fun table => table.put v key) d.header
    some ({ d with root }, cs)

/-- All lines. `fuel` bounds their number. -/
def readLines : (fuel : Nat) → Draft → List Char → Option Entries
  | _, d, [] => some d.root
  | 0, _, _ => none
  | fuel + 1, d, cs =>
    match passLineEnd false cs with
    | some rest => readLines fuel d rest
    | none => do
      let (d, rest) ← readLine d (dropBlanks cs)
      let rest ← passLineEnd false rest
      readLines fuel d rest

/-- The entries of a document. A byte order mark in front of it does not count. -/
def read (text : String) : Option Entries :=
  let cs := match text.toList with
    | '\ufeff' :: rest => rest
    | cs => cs
  readLines (cs.length + 1) {} cs

end BufferScope.Toml
