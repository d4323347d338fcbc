/-
Flags of patterns: letters in brackets that change how the pattern goes on. Here are those on which its
form depends, and what they let a reader skip.
-/
import BufferScope.Text.Blank

namespace BufferScope.Text.Pattern

/-- The flags on which the form of a pattern depends. -/
structure Flags where
  /-- Whether letters stand for both of their cases. -/
  anyCase : Bool := false
  /-- Whether what is matched are characters, not bytes. -/
  unicode : Bool := true
  /-- Whether blanks and comments may stand between the parts. -/
  spaced : Bool := false
  deriving DecidableEq, Repr

/-- Whether letters set flags: each flag once at most, and one dash at most, which something follows. -/
def areFlags (letters : List Char) : Bool :=
  letters.all (fun c => "imsUuxR-".contains c) && letters.Nodup && letters.getLast? ≠ some '-'

namespace Flags

/-- Sets the flags before the dash and unsets those after it. -/
def change (f : Flags) (letters : List Char) : Flags :=
  let set := letters.takeWhile (· ≠ '-')
  let changed (letter : Char) (now : Bool) : Bool :=
    if letters.contains letter then set.contains letter else now
  ⟨changed 'i' f.anyCase, changed 'u' f.unicode, changed 'x' f.spaced⟩

end Flags

/-! ## Blanks -/

/-- What follows blanks and comments. A comment ends with its line; `comment` tells whether one has
begun. -/
def afterBlanks (comment : Bool) : List Char → List Char
  | [] => []
  | c :: rest =>
    if comment then afterBlanks (c ≠ '\n') rest
    else if isBlank c then afterBlanks false rest
    else if c = '#' then afterBlanks true rest
    else c :: rest

namespace Flags

/-- What follows what may be skipped. -/
def skip (f : Flags) (cs : List Char) : List Char := if f.spaced then afterBlanks false cs else cs

/-- The character by which a dash is judged: the next one after blanks and the sign of a comment. -/
def peek (f : Flags) (cs : List Char) : Option Char :=
  if !f.spaced then cs.head?
  else
    let ahead := match cs.dropWhile isBlank with
      | '#' :: rest => rest.dropWhile isBlank
      | ahead => ahead
    ahead.head?.or cs.head?

end Flags

end BufferScope.Text.Pattern
