/-
What single characters and escapes stand for in patterns, and which of it the flags allow. Cases of
letters, kinds of characters and bounds of words are known for ASCII only, so they belong to patterns of
bytes; and what a pattern of bytes matches is made up of whole characters.
-/
import BufferScope.Text.Hexadecimal
import BufferScope.Text.Pattern.Flags

namespace BufferScope.Text.Pattern

/-- What a character or an escape stands for. -/
inductive Symbol where
  /-- A character. `byte` tells whether it is given by the two digits of a byte. -/
  | character (c : Char) (byte : Bool)
  /-- A kind of characters: digits, blanks, or what words consist of; or the others. -/
  | kind (others : Bool)
  /-- The beginning or the end of the text. -/
  | textBound
  /-- The beginning or the end of a word, or neither. -/
  | wordBound
  deriving DecidableEq, Repr

namespace Flags

/-- Whether a symbol may stand outside classes. -/
def allows (f : Flags) : Symbol → Bool
  | .character c byte => if f.unicode then !f.anyCase else !byte || c.toNat < 128
  | .kind others => !f.unicode && !others
  | .textBound => true
  | .wordBound => !f.unicode

/-- Whether a symbol may be a member of a class. -/
def allowsMember (f : Flags) : Symbol → Bool
  | .character c _ => if f.unicode then !f.anyCase else c.toNat < 128
  | .kind others => !f.unicode && !others
  | .textBound | .wordBound => false

end Flags

/-! ## Reading -/

/-- The character whose code is spelled by the next `count` hexadecimal digits, after those that make
up `code`. -/
def readCode (f : Flags) : Nat → Nat → List Char → Option (Char × List Char)
  | 0, code, cs => if code.isValidChar then some (Char.ofNat code, cs) else none
  | count + 1, code, cs => match f.skip cs with
    | [] => none
    | c :: rest => (hexDigit? c).bind fun digit => readCode f count (16 * code + digit) rest

/-- The symbol that an escape stands for, after its backslash. Letters and digits have meanings of their
own or none; other signs of ASCII stand for themselves. -/
def readEscape (f : Flags) : List Char → Option (Symbol × List Char)
  | [] => none
  | 'x' :: rest => (readCode f 2 0 rest).map fun (c, rest) => (.character c true, rest)
  | 'u' :: rest => (readCode f 4 0 rest).map fun (c, rest) => (.character c false, rest)
  | 'U' :: rest => (readCode f 8 0 rest).map fun (c, rest) => (.character c false, rest)
  | 'a' :: rest => some (.character '\x07' false, rest)
  | 'f' :: rest => some (.character '\x0c' false, rest)
  | 'n' :: rest => some (.character '\n' false, rest)
  | 'r' :: rest => some (.character '\r' false, rest)
  | 't' :: rest => some (.character '\t' false, rest)
  | 'v' :: rest => some (.character '\x0b' false, rest)
  | 'd' :: rest | 's' :: rest | 'w' :: rest => some (.kind false, rest)
  | 'D' :: rest | 'S' :: rest | 'W' :: rest => some (.kind true, rest)
  | 'A' :: rest | 'z' :: rest => some (.textBound, rest)
  | 'b' :: rest | 'B' :: rest | '<' :: rest | '>' :: rest => some (.wordBound, rest)
  | c :: rest => if c.isAlphanum || 128 ≤ c.toNat then none else some (.character c false, rest)

/-- The next symbol. -/
def readSymbol (f : Flags) : List Char → Option (Symbol × List Char)
  | [] => none
  | '\\' :: rest => readEscape f rest
  | c :: rest => some (.character c false, rest)

end BufferScope.Text.Pattern
