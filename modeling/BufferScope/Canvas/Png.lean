/-
Canvases as PNG files: eight bits for each of red, green and blue, rows without a filter, and the
data in blocks that are stored as they are.
-/
import BufferScope.Canvas
import BufferScope.Wave.Bytes

namespace BufferScope.Png

open Wave (bytesOf)

/-! ## Checksums -/

/-- One bit of the remainder that a chunk ends with. -/
def shiftRemainder (r : UInt32) : UInt32 := if r &&& 1 == 1 then (r >>> 1) ^^^ 0xedb88320 else r >>> 1

/-- The remainder of each byte. -/
def remainderTable : Vector UInt32 256 := Vector.ofFn fun b => Nat.repeat shiftRemainder 8 (UInt32.ofNat b.val)

/-- Takes one more byte into a remainder. -/
def addRemainder (r : UInt32) (b : UInt8) : UInt32 :=
  have inside : ((r ^^^ b.toUInt32) &&& 0xff).toNat < 256 := by
    rw [UInt32.toNat_and]
    exact Nat.lt_of_le_of_lt Nat.and_le_right (by decide)
  remainderTable[((r ^^^ b.toUInt32) &&& 0xff).toNat] ^^^ (r >>> 8)

/-- The checksum of a chunk. -/
def chunkChecksum (bytes : List UInt8) : UInt32 := bytes.foldl addRemainder 0xffffffff ^^^ 0xffffffff

/-- The checksum of the data before it was packed: two sums modulo the largest prime below `2^16`. -/
def dataChecksum (bytes : List UInt8) : UInt32 :=
  let (a, b) := bytes.foldl (fun (a, b) byte =>
    let a := (a + byte.toUInt32) % 65521
    (a, (b + a) % 65521)) ((1 : UInt32), (0 : UInt32))
  b * 65536 + a

/-! ## Layout -/

/-- The bytes that every file begins with. -/
def signature : List UInt8 := [137, 80, 78, 71, 13, 10, 26, 10]

/-- The tag of the chunk with the size of the picture. -/
def headerTag : List UInt8 := [73, 72, 68, 82]

/-- The tag of the chunks with its pixels. -/
def dataTag : List UInt8 := [73, 68, 65, 84]

/-- The tag of the last chunk. -/
def endTag : List UInt8 := [73, 69, 78, 68]

/-- A number in four bytes, most significant first. -/
def word (n : Nat) : List UInt8 := (bytesOf 4 n).reverse

/-- A chunk: its size, its tag, its data, and the checksum of both. -/
def chunk (tag data : List UInt8) : List UInt8 :=
  word data.length ++ (tag ++ (data ++ word (chunkChecksum (tag ++ data)).toNat))

/-- Eight bits a colour, of which there are three, and nothing out of the ordinary. -/
def plainColors : List UInt8 := [8, 2, 0, 0, 0]

/-- What packed data begins with: how it is packed, and how well. -/
def packedTag : List UInt8 := [0x78, 1]

/-- Bytes cut into pieces of a size. The last may be shorter. -/
def pieces (size : Nat) (positive : 0 < size) (bytes : List UInt8) : List (List UInt8) :=
  if size < bytes.length then bytes.take size :: pieces size positive (bytes.drop size) else [bytes]
termination_by bytes.length
decreasing_by rw [List.length_drop]; omega

/-- A block: whether it is the last, its size, the complement of its size, and its bytes. -/
def storedBlock (last : Bool) (bytes : List UInt8) : List UInt8 :=
  (if last then 1 else 0) :: (bytesOf 2 bytes.length ++ ((bytesOf 2 bytes.length).map (~~~ ·) ++ bytes))

def storedBlocks : List (List UInt8) → List UInt8
  | [] => []
  | [piece] => storedBlock true piece
  | piece :: rest => storedBlock false piece ++ storedBlocks rest

/-- Data in blocks of at most `2^16 - 1` bytes, with its checksum. -/
def pack (data : List UInt8) : List UInt8 :=
  packedTag ++ (storedBlocks (pieces 65535 (by decide) data) ++ word (dataChecksum data).toNat)

/-- A row, after the number of its filter. -/
def rowBytes (row : List Color) : List UInt8 := 0 :: row.flatMap fun p => [p.red, p.green, p.blue]

/-- The file. No chunk has more than `2^31 - 1` bytes of data. -/
def encode (c : Canvas) : List UInt8 :=
  signature ++ (chunk headerTag (word c.width ++ (word c.height ++ plainColors))
    ++ ((pieces 0x7fffffff (by decide) (pack (c.rows.flatMap rowBytes))).flatMap (chunk dataTag)
    ++ chunk endTag []))

end BufferScope.Png
