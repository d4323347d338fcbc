/-
What a place can hold: a file, which may have other names too, a directory of named nodes, or a link to a
path. `entryAt?_put` says what is at every place after something was put at one of them.
-/
import BufferScope.Canvas.Png

namespace BufferScope

/-- What a file holds: some bytes, or those of a picture, which are worked out when they are asked for. -/
inductive FileContent where
  | bytes (data : List UInt8)
  | picture (canvas : Canvas)

/-- The bytes of a file. -/
def FileContent.toBytes : FileContent → List UInt8
  | .bytes data => data
  | .picture canvas => Png.encode canvas

/-- What has a name. -/
inductive FileNode where
  /-- A file with no other name. -/
  | file (content : FileContent)
  /-- A directory with all that is in it. -/
  | directory (entries : List (String × FileNode))
  /-- One of the names of a file that can have several. The tree says what the file holds. -/
  | shared (number : Nat)
  /-- A link to what a path leads to. -/
  | link (target : String)

/-- What a directory holds, by name, oldest first. -/
abbrev FileEntries := List (String × FileNode)

/-- A place in a tree: the names on the way to it, from the root. -/
abbrev FilePlace := List String

/-- What is at one place, apart from what is in it. -/
inductive FileEntry where
  | directory
  | file (content : FileContent)
  | shared (number : Nat)
  | link (target : String)

def FileNode.entry : FileNode → FileEntry
  | .file content => .file content
  | .directory _ => .directory
  | .shared number => .shared number
  | .link target => .link target

/-- Whether nothing is in a node. -/
def FileNode.IsLeaf : FileNode → Prop
  | .directory entries => entries = []
  | .file _ => True
  | .shared _ => True
  | .link _ => True

namespace FileEntries

/-! ## One directory -/

/-- The node with a name. -/
def get? (name : String) : FileEntries → Option FileNode
  | [] => none
  | (n, node) :: rest => if n = name then some node else get? name rest

/-- Puts a node under a name, instead of what had it. -/
def set (name : String) (node : FileNode) : FileEntries → FileEntries
  | [] => [(name, node)]
  | (n, old) :: rest => if n = name then (n, node) :: rest else (n, old) :: set name node rest

@[simp] theorem get?_set (name other : String) (node : FileNode) (es : FileEntries) :
    (es.set name node).get? other = if other = name then some node else es.get? other := by
  induction es with
  | nil => grind [set, get?]
  | cons e rest ih => grind [set, get?]

/-! ## All below it -/

/-- The node at a place. -/
def nodeAt? : FilePlace → FileEntries → Option FileNode
  | [], es => some (.directory es)
  | name :: rest, es => match es.get? name with
    | some (.directory inner) => nodeAt? rest inner
    | held => if rest = [] then held else none

/-- What is at a place. -/
def entryAt? (place : FilePlace) (es : FileEntries) : Option FileEntry := (es.nodeAt? place).map FileNode.entry

/-- Puts a node at a place, instead of what was there. Nothing changes where the place is in no
directory. -/
def put (new : FileNode) : FilePlace → FileEntries → FileEntries
  | [], es => es
  | [name], es => es.set name new
  | name :: next :: rest, es => match es.get? name with
    | some (.directory inner) => es.set name (.directory (put new (next :: rest) inner))
    | _ => es

/-- Whether a place can be written: it is in a directory, and is none itself. -/
def IsFree : FilePlace → FileEntries → Prop
  | [], _ => False
  | [name], es => ∀ inner, es.get? name ≠ some (.directory inner)
  | name :: next :: rest, es => ∃ inner, es.get? name = some (.directory inner) ∧ IsFree (next :: rest) inner

/-- Under a name that is not that of a directory there is nothing else. -/
theorem nodeAt?_of_free {name : String} {es : FileEntries} (free : ∀ inner, es.get? name ≠ some (.directory inner))
    (rest : FilePlace) : es.nodeAt? (name :: rest) = if rest = [] then es.get? name else none := by
  unfold nodeAt?
  split
  · next inner held => exact absurd held (free inner)
  · rfl

/-- A node without anything in it is all there is under its name. -/
theorem nodeAt?_of_leaf {name : String} {es : FileEntries} {node : FileNode} (held : es.get? name = some node)
    (leaf : node.IsLeaf) (rest : FilePlace) : es.nodeAt? (name :: rest) = if rest = [] then some node else none := by
  cases node with
  | directory inner =>
    cases leaf
    cases rest <;> simp [nodeAt?, held, get?]
  | file | shared | link =>
    rw [nodeAt?_of_free (by simp [held]), held]

/-- A node without anything in it changes a free place, and no other. -/
theorem entryAt?_put {new : FileNode} (leaf : new.IsLeaf) :
    ∀ {place : FilePlace} {es : FileEntries}, IsFree place es → ∀ other : FilePlace,
      (es.put new place).entryAt? other = if other = place then some new.entry else es.entryAt? other
  | [], _, free, _ => free.elim
  | [name], es, free, other => by
    match other with
    | [] => simp [put, entryAt?, nodeAt?, FileNode.entry]
    | n :: rest =>
      by_cases same : n = name
      · subst same
        have put : (es.set n new).get? n = some new := by simp
        unfold FileEntries.put entryAt?
        rw [nodeAt?_of_leaf put leaf, nodeAt?_of_free free]
        by_cases here : rest = [] <;> simp [here]
      · simp [put, entryAt?, nodeAt?, same]
  | name :: next :: above, es, free, other => by
    obtain ⟨inner, held, free⟩ := free
    have ih := entryAt?_put leaf free
    match other with
    | [] => simp [put, held, entryAt?, nodeAt?, FileNode.entry]
    | n :: rest =>
      by_cases same : n = name
      · subst same
        have := ih rest
        simpa [put, held, entryAt?, nodeAt?] using this
      · simp [put, held, entryAt?, nodeAt?, same]

end FileEntries

end BufferScope
