/-
A tree of files as a value, with a working directory, and the operations on paths that read it and
change it. Links are followed from the directory that they are in; one at the end of a path is followed
or not, depending on what the path is for.
-/
import BufferScope.Files.Node
import BufferScope.Files.Path

namespace BufferScope

/-! ## Steps in a tree -/

/-- A directory on the way of a path: what it holds, and the directories above it with the names that
led out of them, nearest first. -/
structure FileCursor where
  entries : FileEntries
  above : List (String × FileEntries) := []

namespace FileCursor

def place (c : FileCursor) : FilePlace := (c.above.map (·.1)).reverse

/-- The directory above. The root is above itself. -/
def up (c : FileCursor) : FileCursor :=
  match c.above with
  | [] => c
  | (_, entries) :: above => ⟨entries, above⟩

/-- What has a name in the directory. -/
def find (c : FileCursor) (name : String) : Except FileError (Option FileNode) :=
  if 255 < name.utf8ByteSize then .error .nameTooLong else .ok (c.entries.get? name)

/-- The target of a link in the directory, if the name is that of one. -/
def link? (c : FileCursor) (name : String) : Option String :=
  match c.find name with
  | .ok (some (.link target)) => some target
  | _ => none

/-- Goes into the directory with a name. -/
def enter (c : FileCursor) (name : String) : Except FileError FileCursor := do
  match ← c.find name with
  | none => .error .missing
  | some (.directory entries) => .ok ⟨entries, (name, c.entries) :: c.above⟩
  | some _ => .error .notDirectory

/-- Goes down along names, all of which must be those of directories. -/
def descend (c : FileCursor) : FilePlace → Except FileError FileCursor
  | [] => .ok c
  | name :: rest => match c.enter name with
    | .error e => .error e
    | .ok next => descend next rest

/-- What a step comes to: the end of a path, a link to follow, or a directory to go on from. -/
inductive Step where
  | ended
  | linked (target : String)
  | entered (next : FileCursor)

/-- Takes a step. A link in the last one is followed if `followLast` says so. -/
def step (c : FileCursor) (name : String) (isLast followLast : Bool) : Except FileError Step :=
  if name = "." then .ok (.entered c)
  else if name = ".." then .ok (.entered c.up)
  else match c.link? name with
    | some target => .ok (if isLast && !followLast then .ended else .linked target)
    | none => if isLast then .ok .ended else (c.enter name).map .entered

/-- Where steps lead before a link is followed: to their end, which is a directory or a name in one, or to
a link in a directory, with the steps after it. -/
inductive Progress where
  | ended (directory : FileCursor) (name : Option String)
  | linked (directory : FileCursor) (target : String) (rest : List String)

/-- Takes steps until there is a link to follow. -/
def advance (followLast : Bool) (c : FileCursor) : List String → Except FileError Progress
  | [] => .ok (.ended c none)
  | name :: rest => match c.step name rest.isEmpty followLast with
    | .error e => .error e
    | .ok .ended => .ok (.ended c (some name))
    | .ok (.linked target) => .ok (.linked c target rest)
    | .ok (.entered next) => advance followLast next rest

end FileCursor

/-! ## Following paths -/

/-- What a path is followed for. -/
inductive PathUse where
  | reading
  | writing
  | making
  deriving DecidableEq, Repr

/-- Whether a link at the end is followed. What is to be made must not be there, not even as a link; and a
slash at the end ends the search for a file to write, since it says that a directory is meant. -/
def PathUse.followsLast : PathUse → (slash : Bool) → Bool
  | .reading, _ => true
  | .writing, slash => !slash
  | .making, _ => false

/-- Where a path leads: to a name in a directory, or to the directory itself. -/
structure Destination where
  directory : FileCursor
  name : Option String
  /-- Whether a slash at the end says that a directory is meant. -/
  slash : Bool

/-- The place of a name in a directory. -/
def Destination.place (d : Destination) : FilePlace := d.directory.place ++ d.name.toList

structure FileTree where
  root : FileEntries := []
  /-- Where paths begin that do not begin at the root. -/
  working : FilePlace := []
  /-- What the files hold that can have several names. -/
  shared : Nat → FileContent := fun _ => .bytes []

namespace FileTree

/-- What is at a place. -/
def get? (t : FileTree) (place : FilePlace) : Option FileEntry := t.root.entryAt? place

/-- What a file holds. -/
def contentOf? (t : FileTree) : FileEntry → Option FileContent
  | .file content => some content
  | .shared number => some (t.shared number)
  | .directory => none
  | .link _ => none

/-- What the file at a place holds. -/
def contentAt? (t : FileTree) (place : FilePlace) : Option FileContent := (t.get? place).bind t.contentOf?

/-- Puts a node at a place, instead of what was there. -/
def put (t : FileTree) (place : FilePlace) (node : FileNode) : FileTree := { t with root := t.root.put node place }

/-- Changes what a file holds under all of its names. -/
def setShared (t : FileTree) (number : Nat) (content : FileContent) : FileTree :=
  { t with shared := fun other => if other = number then content else t.shared other }

/-- Where a path begins that is in a directory. -/
def startOf (t : FileTree) (directory : FileCursor) (path : FilePath) : FileCursor :=
  if path.isAbsolute then ⟨t.root, []⟩ else directory

/-- Takes steps from a directory, through at most `links` links. -/
def follow (t : FileTree) (use : PathUse) (links : Nat) (slash : Bool) (c : FileCursor) (steps : List String) :
    Except FileError Destination :=
  match c.advance (use.followsLast slash) steps with
  | .error e => .error e
  | .ok (.ended directory name) => .ok ⟨directory, name, slash⟩
  | .ok (.linked directory target rest) =>
    match links with
    | 0 => .error .tooManyLinks
    | links + 1 =>
      let path := FilePath.ofText target
      match path.fault? with
      | some fault => .error fault
      | none =>
        t.follow use links (slash || (rest.isEmpty && path.endsInSlash)) (t.startOf directory path) (path.steps ++ rest)

/-- The links that are followed on the way of one path. -/
def maxLinks : Nat := 40

/-- Where a path leads. Nothing needs to be at its end. -/
def destination (t : FileTree) (use : PathUse) (path : FilePath) : Except FileError Destination := do
  let first ← FileCursor.descend ⟨t.root, []⟩ (if path.isAbsolute then [] else t.working)
  t.follow use maxLinks path.endsInSlash first path.steps

/-- Where the path in a text leads. -/
def locate (t : FileTree) (use : PathUse) (path : FilePath) : Except FileError Destination :=
  match path.fault? with
  | some fault => .error fault
  | none => t.destination use path

/-! ## Reading and writing -/

/-- The content of the file at `path`. -/
def read (t : FileTree) (path : String) : Except FileError FileContent := do
  let d ← t.locate .reading (FilePath.ofText path)
  match d.name with
  | none => .error .isDirectory
  | some name => match ← d.directory.find name with
    | none => .error .missing
    | some node => match t.contentOf? node.entry with
      | none => .error .isDirectory
      | some content => if d.slash then .error .notDirectory else .ok content

/-- Creates the file at `path` or replaces its content. What is said to be a directory counts as one,
whatever is there. -/
def write (t : FileTree) (path : String) (content : FileContent) : Except FileError FileTree := do
  let d ← t.locate .writing (FilePath.ofText path)
  match d.name with
  | none => .error .isDirectory
  | some name =>
    if d.slash then .error .isDirectory
    else match ← d.directory.find name with
      | some (.directory _) => .error .isDirectory
      -- not met, since it would have been followed
      | some (.link _) => .error .tooManyLinks
      | some (.shared number) => .ok (t.setShared number content)
      | _ => .ok (t.put d.place (.file content))

/-- The names in the directory at a path, sorted; none if there is no such directory. -/
def namesIn (t : FileTree) (path : String) : List String :=
  let names (entries : FileEntries) : List String := (entries.map (·.1)).mergeSort fun a b => decide (a ≤ b)
  match t.locate .reading (FilePath.ofText path) with
  | .error _ => []
  | .ok ⟨directory, none, _⟩ => names directory.entries
  | .ok ⟨directory, some name, _⟩ => match directory.find name with
    | .ok (some (.directory entries)) => names entries
    | _ => []

/-! ## Making directories -/

/-- Makes one directory, where nothing is yet. -/
def makeDirectory (t : FileTree) (path : FilePath) : Except FileError FileTree := do
  let d ← t.destination .making path
  match d.name with
  | none => .error .exists
  | some name => match ← d.directory.find name with
    | none => .ok (t.put d.place (.directory []))
    | some _ => .error .exists

/-- Whether a path leads to a directory. -/
def hasDirectory (t : FileTree) (path : FilePath) : Bool :=
  match t.destination .reading path with
  | .error _ => false
  | .ok ⟨_, none, _⟩ => true
  | .ok ⟨directory, some name, _⟩ => match directory.find name with
    | .ok (some (.directory _)) => true
    | _ => false

/-- What comes of a failure to make a directory: nothing, if it is there. -/
def settle (t : FileTree) (path : FilePath) (error : FileError) : Except FileError Unit :=
  if t.hasDirectory path then .ok () else .error error

/-- Makes the first of some directories, each in the next, and those of the others that are missing. A
failure keeps what was made before it. -/
def makeFirst (t : FileTree) : List FilePath → Except FileError Unit × FileTree
  | [] => (.error .missing, t)
  | path :: above =>
    if path.isEmpty then (.ok (), t)
    else match t.makeDirectory path with
      | .ok made => (.ok (), made)
      | .error .missing =>
        match makeFirst t above with
        | (.error e, t) => (.error e, t)
        | (.ok (), t) => match t.makeDirectory path with
          | .ok made => (.ok (), made)
          | .error e => (t.settle path e, t)
      | .error e => (t.settle path e, t)

/-- Makes the directory at a path, and the missing ones above it. -/
def makeAll (t : FileTree) (path : FilePath) : Except FileError Unit × FileTree :=
  if path.isEmpty then (.ok (), t)
  else match path.fault? with
    | some fault => (.error fault, t)
    | none => t.makeFirst path.ancestors

/-- Makes the directory `path`, and the missing ones above it. -/
def makeDirectories (t : FileTree) (path : String) : Except FileError Unit × FileTree :=
  t.makeAll (FilePath.ofText path)

/-- Makes the directory that a path is in, and the missing ones above it. -/
def makeParent (t : FileTree) (path : String) : Except FileError Unit × FileTree :=
  match (FilePath.ofText path).parent? with
  | none => (.ok (), t)
  | some above => t.makeAll above

end FileTree

/-! ## Text files -/

/-- The bytes of a text. -/
def textBytes (text : String) : List UInt8 := text.toUTF8.data.toList

/-- The text of a file, which must be valid UTF-8. -/
def FileTree.readText (t : FileTree) (path : String) : Except FileError String := do
  let content ← t.read path
  match String.fromUTF8? ⟨content.toBytes.toArray⟩ with
  | some text => return text
  | none => .error .notText

end BufferScope
