/-
Paths: texts with names between slashes. A point stands for the directory that it is in, two points for
the one above, and nothing between two slashes counts as nothing.
-/
import BufferScope.Audio.Error

namespace BufferScope

/-- A path, as the parts between its slashes. -/
structure FilePath where
  parts : List String
  deriving DecidableEq, Repr

namespace FilePath

def ofText (text : String) : FilePath := ⟨(text.toList.splitOn '/').map String.ofList⟩

def isEmpty (p : FilePath) : Bool := p.parts == [""]

/-- Whether a path begins at the root. -/
def isAbsolute (p : FilePath) : Bool := p.parts.head? == some "" && !p.isEmpty

/-- The names and points to follow. -/
def steps (p : FilePath) : List String := p.parts.filter (· ≠ "")

/-- Whether a path ends in a slash, and so can only mean a directory. -/
def endsInSlash (p : FilePath) : Bool := p.parts.getLast? == some "" && !p.isEmpty

/-- The number of bytes of a path. -/
def size (p : FilePath) : Nat := ("/".intercalate p.parts).utf8ByteSize

/-- Why no path like this one can be followed, if there is a reason. -/
def fault? (p : FilePath) : Option FileError :=
  if p.parts.any fun part => part.contains '\x00' then some .nulInPath
  else if p.isEmpty then some .missing
  else if 4095 < p.size then some .nameTooLong
  else none

/-! ## Directories above -/

/-- Parts without those at the end that lead nowhere. -/
def trimmed (parts : List String) : List String :=
  (parts.reverse.dropWhile fun part => part == "" || part == ".").reverse

/-- The path of the directory that a path is in. A point at the beginning counts as a name here. The
root is in none, and neither is the empty path. -/
def parent? (p : FilePath) : Option FilePath :=
  match p.parts with
  | [] => none
  | first :: rest => match trimmed rest with
    | [] => if first = "" then none else some ⟨[""]⟩
    | inner =>
      let above := trimmed inner.dropLast
      some ⟨if first = "" && above = [] then ["", ""] else first :: above⟩

/-- At most `bound` paths: one, and those of the directories above it. -/
def ancestorsUpTo : (bound : Nat) → FilePath → List FilePath
  | 0, _ => []
  | bound + 1, p => p :: match p.parent? with
    | none => []
    | some above => ancestorsUpTo bound above

/-- A path, and those of the directories above it. -/
def ancestors (p : FilePath) : List FilePath := ancestorsUpTo (p.parts.length + 1) p

/-! ## Texts -/

/-- `path` below `directory`. An absolute path stays as it is. -/
def join (directory path : String) : String :=
  if path.startsWith "/" || directory.isEmpty then path
  else if directory.endsWith "/" then directory ++ path
  else directory ++ "/" ++ path

end FilePath

end BufferScope
