/-
The program: it takes the files that a command names into a tree, runs the command on the tree, puts
what changed back, and prints. A link on the disk is in the tree as what it leads to: the system follows
it, when the file is read and when it is put back.
-/
import BufferScope.Command.Run
import BufferScope.Log.Line
import Std.Time

namespace BufferScope.Command

/-- The path of a place on the disk. -/
def diskPath (place : FilePlace) : String := "/" ++ "/".intercalate place

/-- What is at a place on the disk. -/
def nodeAt (place : FilePlace) : IO (Option FileNode) := do
  match ← (IO.FS.readBinFile (diskPath place)).toBaseIO with
  | .ok content => return some (.file (.bytes content.data.toList))
  | .error (.inappropriateType ..) => return some (.directory [])
  | .error _ => return none

/-- The places that names and points lead through, starting at a place. -/
def placesFrom (place : FilePlace) : List String → List FilePlace
  | [] => []
  | "." :: rest => placesFrom place rest
  | ".." :: rest => placesFrom place.dropLast rest
  | name :: rest => (place ++ [name]) :: placesFrom (place ++ [name]) rest

/-- Adds what is on the way to some paths, and at their ends. -/
def loadPaths (files : FileTree) (paths : List String) : IO FileTree := do
  let places := paths.flatMap fun text =>
    let path := FilePath.ofText text
    placesFrom (if path.isAbsolute then [] else files.working) path.steps
  places.foldlM (fun files place => do
    match files.get? place with
    | some _ => return files
    | none => match ← nodeAt place with
      | some node => return files.put place node
      | none => return files) files

/-- The working directory, with nothing in it yet. -/
def emptyDisk : IO FileTree := do
  let directory := (← IO.currentDir).toString
  loadPaths { working := (FilePath.ofText directory).steps } [directory]

/-- The files that an action names, also in its settings. -/
def loadFor (action : Action) : IO FileTree := do
  let disk ← emptyDisk
  match action with
  | .effects => return disk
  | .render r =>
    let files ← loadPaths disk (r.config.toList ++ r.input.toList ++ r.output.toList ++ r.framesDirectory.toList)
    match (settingsFor r files).value with
    | .ok settings => loadPaths files settings.display.framesDirectory.toList
    | .error _ => return files

/-- Whether a file differs from what was at its place before. -/
def isChange (before : Option FileNode) : FileContent → Bool
  | .picture _ => true
  | .bytes data => match before with
    | some (.file (.bytes old)) => old != data
    | _ => true

/-- Puts what changed at a place and below it back on the disk. -/
partial def storeChanges (place : FilePlace) (before : Option FileNode) : FileNode → IO Unit
  | .file content => do
    if isChange before content then IO.FS.writeBinFile (diskPath place) ⟨content.toBytes.toArray⟩
  -- these are never loaded, and a command makes none
  | .shared _ => return
  | .link _ => return
  | .directory entries => do
    if before.isNone then IO.FS.createDirAll (diskPath place)
    let old : FileEntries := match before with
      | some (.directory old) => old
      | _ => []
    entries.forM fun (name, node) => storeChanges (place ++ [name]) (old.get? name) node

/-- The time, as logs show it. -/
def timeNow : IO String := do
  let now := Std.Time.DateTime.ofTimestamp (← Std.Time.Timestamp.now) Std.Time.TimeZone.ZoneRules.UTC
  return now.format "uuuu-MM-dd'T'HH:mm:ss.SSSSSS'Z'"

/-- Runs an invocation, and returns its exit code. -/
def perform (invocation : Invocation) : IO UInt32 := do
  let filter := LogFilter.ofSetting (← IO.getEnv "RUST_LOG") (if invocation.verbose then .debug else .info)
  let before ← loadFor invocation.action
  let outcome := run invocation.action before
  storeChanges [] (some (.directory before.root)) (.directory outcome.value.files.root)
  IO.print (linesText (logLines outcome.entries filter (← timeNow)))
  match outcome.value.result with
  | .ok text =>
    IO.print text
    return 0
  | .error error =>
    IO.eprint error.text
    return 1

end BufferScope.Command

open BufferScope.Command in
def main (args : List String) : IO UInt32 :=
  match readInvocation {} args with
  | .error (.help page) => do
    IO.print page.text
    return 0
  | .error .misused => do
    IO.eprint "error: the arguments are not understood\n\nFor more information, try '--help'.\n"
    return 2
  | .ok invocation => perform invocation
