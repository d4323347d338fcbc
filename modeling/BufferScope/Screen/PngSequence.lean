/-
A screen that writes each frame to the next of a sequence of numbered pictures in a directory. The
number of a frame that could not be written is used again.
-/
import BufferScope.Files
import BufferScope.Scope

namespace BufferScope

/-- The pictures written so far, within the tree of files that they go to. -/
structure PngSequence where
  title : String
  directory : String
  /-- The number of the next frame. Counted one by one, the frames fit 64 bits. -/
  nextFrame : Nat := 0
  files : FileTree

namespace PngSequence

/-- A number with at least six digits. -/
def sixDigits (n : Nat) : String :=
  let digits := toString n
  "".pushn '0' (6 - digits.length) ++ digits

/-- The path of the frame with the given number. -/
def framePath (s : PngSequence) (index : Nat) : String :=
  FilePath.join s.directory ("frame_" ++ sixDigits index ++ ".png")

/-- Opens a sequence in a directory, which is made if need be. The tree is returned in either case,
since some directories may have been made before one could not be. -/
def create (title directory : String) (files : FileTree) :
    Logged (Except AudioError PngSequence × FileTree) := do
  match files.makeDirectories directory with
  | (.error error, files) => return (.error (.file error), files)
  | (.ok (), files) =>
    log .info "pysynth_infra::display" "Opened PNG sequence screen"
      [⟨"title", .plain title⟩, ⟨"dir", .plain directory⟩]
    return (.ok { title, directory, files }, files)

/-- Writes a picture. One without pixels is refused after its file was opened. -/
def writePicture (files : FileTree) (path : String) (frame : Canvas) : Except PictureError Unit × FileTree :=
  let refused (error : PictureError) : Except PictureError Unit × FileTree :=
    match files.write path (.bytes []) with
    | .error cause => (.error (.file cause), files)
    | .ok files => (.error error, files)
  if frame.width = 0 then refused .zeroWidth
  else if frame.height = 0 then refused .zeroHeight
  else match files.write path (.picture frame) with
    | .error cause => (.error (.file cause), files)
    | .ok files => (.ok (), files)

def blit (s : PngSequence) (frame : Canvas) : Logged (Except AudioError Unit × PngSequence) := do
  let path := s.framePath s.nextFrame
  match writePicture s.files path frame with
  | (.error error, files) => return (.error (.render (.frameNotWritten path error)), { s with files })
  | (.ok (), files) =>
    log .debug "pysynth_infra::display" "Wrote scope frame" [⟨"path", .plain path⟩]
    return (.ok (), { s with files, nextFrame := s.nextFrame + 1 })

instance : Screen PngSequence where
  title := PngSequence.title
  blit := PngSequence.blit

end PngSequence

end BufferScope
