/-
Reading PNG files of the plain kind: colours of three bytes, rows without a filter, and stored blocks. All
checksums must be right.
-/
import BufferScope.Canvas.Png

namespace BufferScope.Png

open Wave (valueOf)

/-- Takes from the front of the bytes that are left. -/
abbrev Reader (α : Type) : Type := StateT (List UInt8) Option α

/-- The next `count` bytes, which must be there. -/
def take (count : Nat) : Reader (List UInt8) := fun bytes =>
  let taken := bytes.take count
  if taken.length = count then some (taken, bytes.drop count) else none

/-- Passes over bytes that must be next. -/
def expect (front : List UInt8) : Reader Unit := do
  guard ((← take front.length) = front)

/-- The next number of four bytes. -/
def readWord : Reader Nat := return valueOf (← take 4).reverse

/-- Reads the same thing a number of times. -/
def many {α : Type} (reader : Reader α) : Nat → Reader (List α)
  | 0 => return []
  | count + 1 => return (← reader) :: (← many reader count)

/-- All that some bytes are read as. Nothing may be left over. -/
def Reader.whole? {α : Type} (reader : Reader α) (bytes : List UInt8) : Option α :=
  match reader bytes with
  | some (value, []) => some value
  | _ => none

/-! ## Chunks -/

/-- The tag and the data of the next chunk. -/
def readChunk : Reader (List UInt8 × List UInt8) := do
  let size ← readWord
  let tag ← take 4
  let data ← take size
  guard ((← readWord) = (chunkChecksum (tag ++ data)).toNat)
  return (tag, data)

/-- The data of the chunks up to the last one. Each chunk takes twelve bytes, so as many rounds as there are
bytes are enough. -/
def readData : (rounds : Nat) → Reader (List UInt8)
  | 0 => failure
  | rounds + 1 => do
    let (tag, data) ← readChunk
    if tag = dataTag then return data ++ (← readData rounds)
    guard (tag = endTag ∧ data = [])
    return []

/-! ## Blocks -/

/-- Whether the next block is the last, and its bytes. -/
def readBlock : Reader (Bool × List UInt8) := do
  let last ← take 1
  guard (last = [0] ∨ last = [1])
  let size ← take 2
  expect (size.map (~~~ ·))
  return (last == [1], ← take (valueOf size))

/-- The bytes of the blocks up to the last one. Each block takes five bytes, so as many rounds as there are
bytes are enough. -/
def readBlocks : (rounds : Nat) → Reader (List UInt8)
  | 0 => failure
  | rounds + 1 => do
    let (last, bytes) ← readBlock
    if last then return bytes
    return bytes ++ (← readBlocks rounds)

/-- Data out of its blocks. -/
def unpack (rounds : Nat) : Reader (List UInt8) := do
  expect packedTag
  let data ← readBlocks rounds
  guard ((← readWord) = (dataChecksum data).toNat)
  return data

/-! ## Pixels -/

def readColor : Reader Color := do
  match ← take 3 with
  | [red, green, blue] => return ⟨red, green, blue⟩
  | _ => failure

def readRow (width : Nat) : Reader (List Color) := do
  expect [0]
  many readColor width

/-- A canvas of some rows, if they fill it. -/
def canvasOf? (width height : Nat) (rows : List (List Color)) : Option Canvas :=
  if full : rows.flatten.toArray.size = width * height then
    some ⟨width, height, rows.flatten.toArray, full⟩
  else none

/-! ## Files -/

/-- The width and the height of the picture in a header. -/
def readSize : Reader (Nat × Nat) := do
  let width ← readWord
  let height ← readWord
  expect plainColors
  guard (0 < width ∧ 0 < height)
  return (width, height)

/-- The size of the picture in a file, and its data as it is packed. -/
def readFile (rounds : Nat) : Reader ((Nat × Nat) × List UInt8) := do
  expect signature
  let (tag, header) ← readChunk
  guard (tag = headerTag)
  let size ← readSize.whole? header
  return (size, ← readData rounds)

/-- The picture in a file. -/
def decode? (bytes : List UInt8) : Option Canvas := do
  let ((width, height), packed) ← (readFile bytes.length).whole? bytes
  let data ← (unpack packed.length).whole? packed
  let rows ← (many (readRow width) height).whole? data
  canvasOf? width height rows

end BufferScope.Png
