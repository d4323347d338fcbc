/-
Classes of characters in patterns: characters, ranges, named sets and classes in brackets, and their
intersections and differences. What matters is that a class is well formed, and how deeply it is nested.
-/
import BufferScope.Text.Pattern.Symbol

namespace BufferScope.Text.Pattern

/-- The depth of parts that stand together. A part alone is as deep as it is; several make up one that
is deeper than each of them. -/
def depthTogether : List Nat → Nat
  | [] => 0
  | [depth] => depth
  | depths => depths.foldl max 0 + 1

/-! ## Members -/

/-- The names of sets of characters. -/
def setNames : List String :=
  ["alnum", "alpha", "ascii", "blank", "cntrl", "digit", "graph", "lower", "print", "punct", "space",
    "upper", "word", "xdigit"]

/-- What follows a named set, after its bracket, and whether the set is meant or the other characters. -/
def readNamedSet : List Char → Option (Bool × List Char)
  | ':' :: rest =>
    let (others, rest) := match rest with
      | '^' :: rest => (true, rest)
      | rest => (false, rest)
    match rest.dropWhile (· ≠ ':') with
    | ':' :: ']' :: after =>
      if setNames.contains (String.ofList (rest.takeWhile (· ≠ ':'))) then some (others, after) else none
    | _ => none
  | _ => none

/-- Whether a named set may be a member of a class. -/
def Flags.allowsSet (f : Flags) (others : Bool) : Bool := if f.unicode then !f.anyCase else !others

/-- What follows a member: a symbol, or a range from one character to another that is not before it. A
dash before the end of the class or before a dash makes no range. -/
def readMember (f : Flags) (cs : List Char) : Option (List Char) := do
  let (low, rest) ← readSymbol f cs
  if !f.allowsMember low then none
  match f.skip rest with
  | '-' :: rest =>
    if f.peek rest = some ']' || f.peek rest = some '-' then some ('-' :: rest)
    else
      let (high, rest) ← readSymbol f (f.skip rest)
      match low, high with
      | .character first _, .character last _ =>
        if f.allowsMember high && first ≤ last then some rest else none
      | _, _ => none
  | rest => some rest

/-! ## Classes -/

/-- A class of which a beginning has been read. -/
structure OpenClass where
  /-- The depth of all before the last operator, if there is one. -/
  before : Option Nat := none
  /-- The depths of the members since then. -/
  members : List Nat := []
  /-- Whether nothing but dashes has been read. -/
  atStart : Bool := true

namespace OpenClass

def depth (c : OpenClass) : Nat :=
  match c.before with
  | none => depthTogether c.members
  | some before => max before (depthTogether c.members) + 1

/-- Goes on with a member. -/
def add (c : OpenClass) (depth : Nat) : OpenClass := { c with members := depth :: c.members, atStart := false }

/-- Goes on with a dash at the start. -/
def addDash (c : OpenClass) : OpenClass := { c with members := 0 :: c.members }

/-- Goes on with an operator, whose left side is all that came before. -/
def operate (c : OpenClass) : OpenClass := { before := some c.depth, atStart := false }

end OpenClass

/-- What follows the opening bracket of a class, after the sign that all other characters are meant. In
patterns of bytes those would not be whole characters. -/
def readClassStart (f : Flags) (cs : List Char) : Option (List Char) :=
  match f.skip cs with
  | '^' :: rest => if f.unicode then some rest else none
  | rest => some rest

/-- Reads on to the end of the class around all classes that are open, and gives its depth. At its start,
dashes and, before any member, the closing bracket are members of a class. -/
def readClassFrom (f : Flags) : Nat → List OpenClass → OpenClass → List Char → Option (Nat × List Char)
  | 0, _, _, _ => none
  | fuel + 1, outer, inner, cs => match f.skip cs with
    | [] => none
    | c :: rest =>
      if inner.atStart && c = '-' then
        if f.allowsMember (.character c false) then readClassFrom f fuel outer inner.addDash rest else none
      else if inner.atStart && inner.members = [] && c = ']' then
        if f.allowsMember (.character c false) then readClassFrom f fuel outer (inner.add 0) rest else none
      else match c :: rest with
        | ']' :: rest => match outer with
          | [] => some (inner.depth + 1, rest)
          | next :: outer => readClassFrom f fuel outer (next.add (inner.depth + 1)) rest
        | '[' :: rest => match readNamedSet rest with
          | some (others, rest) =>
            if f.allowsSet others then readClassFrom f fuel outer (inner.add 0) rest else none
          | none => (readClassStart f rest).bind (readClassFrom f fuel (inner :: outer) {})
        | '&' :: '&' :: rest | '-' :: '-' :: rest | '~' :: '~' :: rest =>
          readClassFrom f fuel outer inner.operate rest
        | cs => (readMember f cs).bind (readClassFrom f fuel outer (inner.add 0))

/-- Reads a class, after its bracket, and gives its depth. Each step reads at least one character. -/
def readClass (f : Flags) (cs : List Char) : Option (Nat × List Char) :=
  (readClassStart f cs).bind (readClassFrom f cs.length [] {})

end BufferScope.Text.Pattern
