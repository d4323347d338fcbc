/-
Which texts are patterns for the values of fields: regular expressions with groups, classes, choices and
repetitions. Only their form is checked here. A pattern may be nested to a limit, and what stands in it
depends on the flags in force there.
-/
import BufferScope.Text.Alphanumeric
import BufferScope.Text.Pattern.Class

namespace BufferScope.Text

namespace Pattern

/-! ## Groups -/

/-- A part of a sequence. -/
structure Part where
  depth : Nat := 0
  /-- Whether it may be repeated. Flags may not. -/
  repeatable : Bool := true

/-- A group of which a beginning has been read, or the whole pattern. -/
structure OpenGroup where
  /-- The depths of the choices before the last one. -/
  choices : List Nat := []
  /-- The parts of the last choice, the last of them first. -/
  parts : List Part := []

namespace OpenGroup

/-- The depth of the last choice. -/
def lastDepth (g : OpenGroup) : Nat := depthTogether (g.parts.map Part.depth)

def depth (g : OpenGroup) : Nat := depthTogether (g.lastDepth :: g.choices)

def add (g : OpenGroup) (part : Part) : OpenGroup := { g with parts := part :: g.parts }

/-- Begins the next choice. -/
def nextChoice (g : OpenGroup) : OpenGroup := { choices := g.lastDepth :: g.choices }

/-- Repeats the last part. -/
def repeatLast (g : OpenGroup) : Option OpenGroup :=
  match g.parts with
  | [] => none
  | part :: parts => if part.repeatable then some { g with parts := ⟨part.depth + 1, true⟩ :: parts } else none

end OpenGroup

/-! ## Brackets -/

/-- What an opening bracket begins. -/
inductive Opening where
  /-- A group in which the given flags are in force, and its name if it has one. -/
  | group (flags : Flags) (name : Option String)
  /-- New flags for the rest of the group around. -/
  | flags (flags : Flags)

/-- The name of a group. It begins with a letter or an underscore. -/
def readName (cs : List Char) : Option (String × List Char) :=
  let isFirst (c : Char) : Bool := c = '_' || isLetter c
  let isNext (c : Char) : Bool := c = '_' || c = '.' || c = '[' || c = ']' || isAlphanumeric c
  match cs.takeWhile (· ≠ '>'), cs.dropWhile (· ≠ '>') with
  | first :: others, _ :: rest =>
    if isFirst first && others.all isNext then some (String.ofList (first :: others), rest) else none
  | _, _ => none

/-- Reads on after an opening bracket. -/
def readOpening (f : Flags) (cs : List Char) : Option (Opening × List Char) :=
  match f.skip cs with
  | '?' :: 'P' :: '<' :: rest | '?' :: '<' :: rest =>
    (readName rest).map fun (name, rest) => (.group f (some name), rest)
  | '?' :: rest =>
    let letters := rest.takeWhile fun c => c ≠ ':' && c ≠ ')'
    if !areFlags letters then none
    else match rest.drop letters.length with
      | ':' :: rest => some (.group (f.change letters) none, rest)
      | ')' :: rest => if letters = [] then none else some (.flags (f.change letters), rest)
      | _ => none
  | rest => some (.group f none, rest)

/-! ## Patterns -/

/-- What has been read of a pattern. -/
structure Reading where
  /-- The flags in force. -/
  flags : Flags := {}
  /-- The innermost group that is open. -/
  inner : OpenGroup := {}
  /-- The groups around it from the inside out, each with the flags in force there. -/
  outer : List (Flags × OpenGroup) := []
  /-- The names of groups. -/
  names : List String := []

namespace Reading

/-- Goes on with a part of the innermost group. -/
def add (r : Reading) (depth : Nat) : Reading := { r with inner := r.inner.add { depth } }

/-- Goes on with an opening bracket. No two groups have the same name. -/
def begin (r : Reading) : Opening → Option Reading
  | .flags flags => some { r with flags, inner := r.inner.add { repeatable := false } }
  | .group flags none => some { r with flags, inner := {}, outer := (r.flags, r.inner) :: r.outer }
  | .group flags (some name) =>
    if r.names.contains name then none
    else some ⟨flags, {}, (r.flags, r.inner) :: r.outer, name :: r.names⟩

/-- Goes on with a closing bracket. The flags from before the group are in force again. -/
def close (r : Reading) : Option Reading :=
  match r.outer with
  | [] => none
  | (flags, group) :: outer => some { r with flags, inner := group.add { depth := r.inner.depth + 1 }, outer }

/-- Reads on by what begins with the character `c`. A repetition may be followed by the sign that it is
to be short. Counted ones have no place here, since the bracket that would close one ends the text. -/
def step (r : Reading) (c : Char) (rest : List Char) : Option (Reading × List Char) :=
  match c with
  | '(' => do
    let (opening, rest) ← readOpening r.flags rest
    return (← r.begin opening, rest)
  | ')' => r.close.map fun r => (r, rest)
  | '|' => some ({ r with inner := r.inner.nextChoice }, rest)
  | '[' => (readClass r.flags rest).map fun (depth, rest) => (r.add depth, rest)
  | '*' | '+' | '?' => r.inner.repeatLast.map fun inner => match rest with
    | '?' :: rest => ({ r with inner }, rest)
    | rest => ({ r with inner }, rest)
  | '\x7b' => none
  | '.' => if r.flags.unicode then some (r.add 0, rest) else none
  | '^' | '$' => some (r.add 0, rest)
  | _ => do
    let (symbol, rest) ← readSymbol r.flags (c :: rest)
    if r.flags.allows symbol then some (r.add 0, rest) else none

/-- Reads on to the end in at most `fuel` steps. -/
def finish (r : Reading) : Nat → List Char → Option Reading
  | 0, _ => none
  | fuel + 1, cs => match r.flags.skip cs with
    | [] => some r
    | c :: rest => (r.step c rest).bind fun (r, rest) => r.finish fuel rest

end Reading

/-- How deeply a pattern may be nested. -/
def maxDepth : Nat := 250

end Pattern

/-- Whether a text is a pattern. Each step reads at least one character, and the last one finds the end. -/
def isPattern (text : String) : Bool :=
  let cs := text.toList
  match ({} : Pattern.Reading).finish (cs.length + 1) cs with
  | none => false
  | some r => r.outer.isEmpty && r.inner.depth ≤ Pattern.maxDepth

end BufferScope.Text
