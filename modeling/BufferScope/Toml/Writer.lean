/-
Writing documents: tables of texts, whole numbers and booleans, each under its header. A text gets
the first of the four forms that holds it without escapes, and escapes in double quotes if none
does.
-/
import BufferScope.Toml.Text
import BufferScope.Toml.Value

namespace BufferScope.Toml

/-! ## Quoted text -/

/-- Whether a character can only be written by an escape, whatever the form. -/
def isControl (c : Char) : Bool := !isText c && c ≠ '\n'

/-- The length of the longest run of `quote`, where `run` of them came before. -/
def longestRun (quote : Char) : (run : Nat) → List Char → Nat
  | run, [] => run
  | run, c :: rest => if c = quote then longestRun quote (run + 1) rest else max run (longestRun quote 0 rest)

/-- A hexadecimal digit, with capital letters. -/
def hexDigit (n : Nat) : Char := (Nat.digitChar n).toUpper

/-- A character within double quotes. -/
def escaped (c : Char) : List Char :=
  match c with
  | '\x08' => ['\\', 'b']
  | '\t' => ['\\', 't']
  | '\n' => ['\\', 'n']
  | '\x0c' => ['\\', 'f']
  | '\r' => ['\\', 'r']
  | '"' => ['\\', '"']
  | '\\' => ['\\', '\\']
  | c => if isControl c then ['\\', 'u', '0', '0', hexDigit (c.toNat / 16), hexDigit (c.toNat % 16)] else [c]

/-- The longest run of quotes that needs no escape. -/
def freeQuotes (lines : Bool) : Nat := if lines then 2 else 0

/-- Text within double quotes, where `run` quotes came before. Over several lines, line ends and two
quotes in a row stand for themselves. -/
def writeBasic (lines : Bool) : (run : Nat) → List Char → List Char
  | _, [] => []
  | run, c :: rest =>
    if c = '"' && run < freeQuotes lines then c :: writeBasic lines (run + 1) rest
    else if lines && c = '\n' then c :: writeBasic lines 0 rest
    else escaped c ++ writeBasic lines 0 rest

/-- The forms of quoted text. -/
inductive TextForm where
  | basic
  | literal
  | basicLines
  | literalLines
  deriving DecidableEq, Repr

/-- The form that a text is written in. -/
def TextForm.for (text : List Char) : TextForm :=
  let control := text.any isControl
  let newline := text.contains '\n'
  let backslash := text.contains '\\'
  let quotes := longestRun '"' 0 text
  let apostrophes := longestRun '\x27' 0 text
  if !control && !backslash && quotes = 0 && !newline then .basic
  else if !control && apostrophes = 0 && !newline then .literal
  else if !control && !backslash && quotes ≤ 2 then .basicLines
  else if !control && apostrophes ≤ 2 then .literalLines
  else if newline then .basicLines
  else .basic

/-- Three quotes, and a line end after them if the text has one. -/
def opening (quote : Char) (text : List Char) : List Char :=
  quote :: quote :: quote :: if text.contains '\n' then ['\n'] else []

/-- A text in the given form. -/
def TextForm.write (form : TextForm) (text : List Char) : List Char :=
  match form with
  | .basic => '"' :: writeBasic false 0 text ++ ['"']
  | .literal => '\x27' :: text ++ ['\x27']
  | .basicLines => opening '"' text ++ writeBasic true 0 text ++ ['"', '"', '"']
  | .literalLines => opening '\x27' text ++ text ++ ['\x27', '\x27', '\x27']

/-- A text as it stands in a document. -/
def writeText (text : List Char) : List Char := (TextForm.for text).write text

/-! ## Documents -/

/-- The values that are written. -/
inductive Scalar where
  | text (text : String)
  | whole (number : Nat)
  | boolean (value : Bool)
  deriving DecidableEq, Repr

/-- What is read for a scalar. -/
def Scalar.toValue : Scalar → Value
  | .text s => .text s
  | .whole n => .whole n
  | .boolean b => .boolean b

def Scalar.write : Scalar → List Char
  | .text s => writeText s.toList
  | .whole n => Nat.toDigits 10 n
  | .boolean true => "true".toList
  | .boolean false => "false".toList

/-- A table to be written under its header. -/
structure Section where
  name : String
  entries : List (String × Scalar)

/-- A line with a key and its value. -/
def writeEntry (entry : String × Scalar) : List Char :=
  entry.1.toList ++ " = ".toList ++ entry.2.write ++ ['\n']

def Section.write (s : Section) : List Char :=
  '[' :: s.name.toList ++ [']', '\n'] ++ s.entries.flatMap writeEntry

/-- The sections with an empty line between them. -/
def writeSections : List Section → List Char
  | [] => []
  | [s] => s.write
  | s :: rest => s.write ++ '\n' :: writeSections rest

end BufferScope.Toml
