/-
The bytes of a picture determine it. `decode?_encode`: a canvas with pixels, whose sides fit the four bytes that
a file has for them, is read back from its file, size and pixels. Each part of a file is read from in front of
whatever follows, and leaves that.
-/
import Mathlib.Tactic
import BufferScope.Canvas.Png.Reader

namespace BufferScope.Png

open Wave (bytesOf valueOf length_bytesOf valueOf_bytesOf)

/-! ## Reading from the front -/

section Front

variable {α β : Type} {bytes rest : List UInt8}

/-- A reader goes on with what the one before it left. -/
theorem bind_of_some {reader : Reader α} {value : α} (read : reader bytes = some (value, rest))
    (next : α → Reader β) :
    (reader >>= next) bytes = next value rest := by
  show Option.bind (reader bytes) _ = _
  rw [read]
  rfl

theorem take_append (front rest : List UInt8) : take front.length (front ++ rest) = some (front, rest) := by
  unfold take
  rw [List.take_left, List.drop_left, if_pos rfl]

theorem guard_of {condition : Prop} [Decidable condition] (holds : condition) :
    (guard condition : Reader Unit) bytes = some ((), bytes) := by
  unfold guard
  rw [if_pos holds]
  rfl

theorem expect_append (front rest : List UInt8) : expect front (front ++ rest) = some ((), rest) := by
  unfold expect
  rw [bind_of_some (take_append front rest), guard_of rfl]

theorem lift_of_some {x : Option α} {value : α} (found : x = some value) :
    (liftM x : Reader α) bytes = some (value, bytes) := by
  rw [found]
  rfl

theorem length_word (n : ℕ) : (word n).length = 4 := by
  rw [word, List.length_reverse, length_bytesOf]

theorem readWord_word {n : ℕ} (fits : n < 2 ^ 32) (rest : List UInt8) :
    readWord (word n ++ rest) = some (n, rest) := by
  have taken := take_append (word n) rest
  rw [length_word] at taken
  unfold readWord
  rw [bind_of_some taken, word, List.reverse_reverse, valueOf_bytesOf]
  exact congrArg (fun value => some (value, rest)) (Nat.mod_eq_of_lt fits)

theorem readWord_checksum (sum : UInt32) (rest : List UInt8) :
    readWord (word sum.toNat ++ rest) = some (sum.toNat, rest) := readWord_word sum.toNat_lt rest

/-- What is written one after the other is read one after the other. -/
theorem many_flatMap (reader : Reader α) (write : α → List UInt8) (xs : List α)
    (read : ∀ x ∈ xs, ∀ rest, reader (write x ++ rest) = some (x, rest)) (rest : List UInt8) :
    many reader xs.length (xs.flatMap write ++ rest) = some (xs, rest) := by
  induction xs with
  | nil => rfl
  | cons x xs ih =>
    have later := ih fun y member => read y (List.mem_cons_of_mem _ member)
    rw [List.length_cons, many, List.flatMap_cons, List.append_assoc, bind_of_some (read x List.mem_cons_self _),
      bind_of_some later]
    rfl

theorem whole?_of_some {reader : Reader α} {value : α} (read : reader bytes = some (value, [])) :
    reader.whole? bytes = some value := by
  unfold Reader.whole?
  rw [read]

end Front

/-! ## Pieces -/

theorem flatten_pieces {size : ℕ} (positive : 0 < size) (bytes : List UInt8) :
    (pieces size positive bytes).flatten = bytes := by
  induction bytes using pieces.induct size positive with
  | case1 bytes longer ih => rw [pieces, if_pos longer, List.flatten_cons, ih, List.take_append_drop]
  | case2 bytes fits => rw [pieces, if_neg fits, List.flatten_singleton]

theorem length_le_of_mem_pieces {size : ℕ} (positive : 0 < size) (bytes : List UInt8) :
    ∀ piece ∈ pieces size positive bytes, piece.length ≤ size := by
  induction bytes using pieces.induct size positive with
  | case1 bytes longer ih =>
    rw [pieces, if_pos longer]
    rintro piece (_ | ⟨_, member⟩)
    · exact List.length_take_le ..
    · exact ih piece member
  | case2 bytes fits =>
    rw [pieces, if_neg fits]
    rintro piece (_ | ⟨_, ⟨⟩⟩)
    omega

theorem pieces_ne_nil {size : ℕ} (positive : 0 < size) (bytes : List UInt8) : pieces size positive bytes ≠ [] := by
  rw [pieces]
  split
  · exact List.cons_ne_nil _ _
  · exact List.cons_ne_nil _ _

/-! ## Chunks -/

theorem readChunk_chunk {tag data : List UInt8} (short : tag.length = 4) (fits : data.length < 2 ^ 32)
    (rest : List UInt8) : readChunk (chunk tag data ++ rest) = some ((tag, data), rest) := by
  have tagged := take_append tag (data ++ word (chunkChecksum (tag ++ data)).toNat ++ rest)
  rw [short] at tagged
  unfold readChunk chunk
  simp only [List.append_assoc] at tagged ⊢
  rw [bind_of_some (readWord_word fits _), bind_of_some tagged, bind_of_some (take_append data _),
    bind_of_some (readWord_checksum _ _), bind_of_some (guard_of rfl)]
  rfl

theorem length_chunk (tag data : List UInt8) : (chunk tag data).length = tag.length + data.length + 8 := by
  simp [chunk, length_word]
  omega

theorem length_le_chunks (cut : List (List UInt8)) : cut.length ≤ (cut.flatMap (chunk dataTag)).length := by
  induction cut with
  | nil => exact Nat.le_refl 0
  | cons piece cut ih =>
    rw [List.length_cons, List.flatMap_cons, List.length_append, length_chunk]
    omega

/-- The data of all chunks is read, however it was cut. -/
theorem readData_chunks (cut : List (List UInt8)) (fits : ∀ piece ∈ cut, piece.length < 2 ^ 32) :
    ∀ rounds, cut.length < rounds →
      readData rounds (cut.flatMap (chunk dataTag) ++ chunk endTag []) = some (cut.flatten, []) := by
  induction cut with
  | nil =>
    have last : readChunk (chunk endTag []) = some ((endTag, []), []) := by
      simpa using readChunk_chunk (show endTag.length = 4 from rfl) (show [].length < 2 ^ 32 by decide) []
    rintro (_ | rounds) enough
    · cases enough
    · rw [readData, List.flatMap_nil, List.nil_append, bind_of_some last]
      rfl
  | cons piece cut ih =>
    have first := readChunk_chunk (show dataTag.length = 4 from rfl) (fits piece List.mem_cons_self)
    rintro (_ | rounds) enough
    · cases enough
    · have later := ih (fun other member => fits other (List.mem_cons_of_mem _ member)) rounds
        (Nat.lt_of_succ_lt_succ enough)
      rw [readData, List.flatMap_cons, List.append_assoc, bind_of_some (first _)]
      dsimp only
      rw [if_pos rfl, bind_of_some later]
      rfl

/-! ## Blocks -/

theorem length_storedBlock (last : Bool) (bytes : List UInt8) : 5 ≤ (storedBlock last bytes).length := by
  unfold storedBlock
  simp
  omega

theorem readBlock_storedBlock (last : Bool) {bytes : List UInt8} (fits : bytes.length ≤ 65535) (rest : List UInt8) :
    readBlock (storedBlock last bytes ++ rest) = some ((last, bytes), rest) := by
  have flag : ∀ more, take 1 ((if last then 1 else 0) :: more) = some ([if last then 1 else 0], more) :=
    take_append [if last then 1 else 0]
  have size := take_append (bytesOf 2 bytes.length) ((bytesOf 2 bytes.length).map (~~~ ·) ++ (bytes ++ rest))
  have content := take_append bytes rest
  have value : valueOf (bytesOf 2 bytes.length) = bytes.length :=
    (valueOf_bytesOf 2 bytes.length).trans (Nat.mod_eq_of_lt (Nat.lt_succ_of_le fits))
  rw [length_bytesOf] at size
  rw [← value] at content
  unfold readBlock storedBlock
  simp only [List.cons_append, List.append_assoc]
  rw [bind_of_some (flag _), bind_of_some (guard_of (by cases last <;> decide)), bind_of_some size,
    bind_of_some (expect_append _ _), bind_of_some content]
  cases last <;> rfl

/-- The bytes of all blocks are read, however they were cut. -/
theorem readBlocks_storedBlocks (cut : List (List UInt8)) (some? : cut ≠ [])
    (fits : ∀ piece ∈ cut, piece.length ≤ 65535) (rest : List UInt8) : ∀ rounds, cut.length ≤ rounds →
      readBlocks rounds (storedBlocks cut ++ rest) = some (cut.flatten, rest) := by
  induction cut using storedBlocks.induct with
  | case1 => exact absurd rfl some?
  | case2 piece =>
    rintro (_ | rounds) enough
    · cases enough
    · rw [readBlocks, storedBlocks, bind_of_some (readBlock_storedBlock true (fits piece List.mem_cons_self) rest),
        List.flatten_singleton]
      rfl
  | case3 piece cut more ih =>
    rintro (_ | rounds) enough
    · cases enough
    · have later :=
        ih (fun none => more (none ▸ rfl)) (fun other member => fits other (List.mem_cons_of_mem _ member))
        rounds (Nat.le_of_succ_le_succ enough)
      rw [readBlocks, storedBlocks.eq_3 piece cut more, List.append_assoc,
        bind_of_some (readBlock_storedBlock false (fits piece List.mem_cons_self) _)]
      dsimp only
      rw [if_neg Bool.false_ne_true, bind_of_some later]
      rfl

theorem length_le_storedBlocks (cut : List (List UInt8)) : cut.length ≤ (storedBlocks cut).length := by
  induction cut using storedBlocks.induct with
  | case1 => exact Nat.le_refl 0
  | case2 piece => exact Nat.le_trans (by simp) (length_storedBlock true piece)
  | case3 piece cut more ih =>
    have block := length_storedBlock false piece
    rw [storedBlocks.eq_3 piece cut more, List.length_cons, List.length_append]
    omega

/-- Packed data is unpacked. -/
theorem whole?_unpack_pack (data : List UInt8) {rounds : ℕ} (enough : (pack data).length ≤ rounds) :
    (unpack rounds).whole? (pack data) = some data := by
  have blocks := readBlocks_storedBlocks (pieces 65535 (by decide) data) (pieces_ne_nil _ _)
    (length_le_of_mem_pieces _ _) (word (dataChecksum data).toNat) rounds (by
      have each := length_le_storedBlocks (pieces 65535 (by decide) data)
      simp only [pack, List.length_append] at enough
      omega)
  have sum := readWord_checksum (dataChecksum data) []
  rw [flatten_pieces] at blocks
  rw [List.append_nil] at sum
  refine whole?_of_some ?_
  unfold unpack pack
  rw [bind_of_some (expect_append _ _), bind_of_some blocks, bind_of_some sum, bind_of_some (guard_of rfl)]
  rfl

/-! ## Pixels -/

theorem readRow_rowBytes (row : List Color) (rest : List UInt8) :
    readRow row.length (rowBytes row ++ rest) = some (row, rest) := by
  have colors := many_flatMap readColor (fun p => [p.red, p.green, p.blue]) row
    (fun p _ rest => bind_of_some (take_append [p.red, p.green, p.blue] rest) _) rest
  unfold readRow rowBytes
  exact (bind_of_some (expect_append [0] _) _).trans colors

/-- The pixels of the first rows. -/
theorem flatten_rowsUpTo (pixels : Array Color) (width count : ℕ) :
    ((List.range count).map fun y => (pixels.extract (y * width) ((y + 1) * width)).toList).flatten =
      pixels.toList.take (count * width) := by
  induction count with
  | zero => simp
  | succ count ih =>
    have row : (pixels.extract (count * width) ((count + 1) * width)).toList =
        (pixels.toList.drop (count * width)).take width := by
      rw [Array.toList_extract, List.extract_eq_take_drop, Nat.succ_mul, Nat.add_sub_cancel_left]
    rw [List.range_succ, List.map_append, List.flatten_append, ih, List.map_singleton, List.flatten_singleton, row,
      Nat.succ_mul, List.take_add]

theorem flatten_rows (c : Canvas) : c.rows.flatten = c.pixels.toList := by
  unfold Canvas.rows
  rw [flatten_rowsUpTo, List.take_of_length_le]
  rw [Array.length_toList, c.size_pixels, Nat.mul_comm]

theorem length_rows (c : Canvas) : c.rows.length = c.height := by simp [Canvas.rows]

theorem length_of_mem_rows (c : Canvas) : ∀ row ∈ c.rows, row.length = c.width := by
  intro row member
  obtain ⟨y, inside, rfl⟩ := List.mem_map.mp member
  have last : (y + 1) * c.width ≤ c.pixels.size := by
    rw [c.size_pixels, Nat.mul_comm c.width]
    exact Nat.mul_le_mul_right _ (List.mem_range.mp inside)
  rw [Array.length_toList, Array.size_extract, Nat.min_eq_left last, Nat.succ_mul, Nat.add_sub_cancel_left]

theorem canvasOf?_rows (c : Canvas) : canvasOf? c.width c.height c.rows = some c := by
  have pixels : c.rows.flatten.toArray = c.pixels := by rw [flatten_rows, Array.toArray_toList]
  unfold canvasOf?
  simp only [pixels, c.size_pixels, dite_true]

/-! ## Files -/

theorem whole?_readSize {width height : ℕ} (wide : width < 2 ^ 32) (high : height < 2 ^ 32)
    (filled : 0 < width ∧ 0 < height) :
    readSize.whole? (word width ++ (word height ++ plainColors)) = some (width, height) := by
  refine whole?_of_some ?_
  have plain := expect_append plainColors []
  rw [List.append_nil] at plain
  unfold readSize
  rw [bind_of_some (readWord_word wide _), bind_of_some (readWord_word high _), bind_of_some plain,
    bind_of_some (guard_of filled)]
  rfl

/-- A canvas whose sides fit the four bytes that a file has for them. -/
structure Fits (c : Canvas) : Prop where
  wide : c.width < 2 ^ 32
  high : c.height < 2 ^ 32

theorem whole?_readFile_encode {c : Canvas} (fits : Fits c) (filled : 0 < c.width ∧ 0 < c.height) {rounds : ℕ}
    (enough : (encode c).length ≤ rounds) :
    (readFile rounds).whole? (encode c) = some ((c.width, c.height), pack (c.rows.flatMap rowBytes)) := by
  have header : (word c.width ++ (word c.height ++ plainColors)).length < 2 ^ 32 := by
    simp [length_word, plainColors]
  have data := readData_chunks (pieces 0x7fffffff (by decide) (pack (c.rows.flatMap rowBytes)))
    (fun piece member => Nat.lt_of_le_of_lt (length_le_of_mem_pieces _ _ piece member) (by decide)) rounds (by
      have each := length_le_chunks (pieces 0x7fffffff (by decide) (pack (c.rows.flatMap rowBytes)))
      simp only [encode, List.length_append, length_chunk] at enough
      omega)
  refine whole?_of_some ?_
  unfold readFile encode
  rw [bind_of_some (expect_append _ _), bind_of_some (readChunk_chunk rfl header _)]
  dsimp only
  rw [bind_of_some (guard_of rfl), bind_of_some (lift_of_some (whole?_readSize fits.wide fits.high filled)),
    bind_of_some data, flatten_pieces]
  rfl

/-- A picture is read back from its file. -/
theorem decode?_encode {c : Canvas} (fits : Fits c) (filled : 0 < c.width ∧ 0 < c.height) :
    decode? (encode c) = some c := by
  have rows := many_flatMap (readRow c.width) rowBytes c.rows (fun row member rest => by
    rw [← length_of_mem_rows c row member]
    exact readRow_rowBytes row rest) []
  rw [List.append_nil, length_rows] at rows
  unfold decode?
  rw [whole?_readFile_encode fits filled le_rfl]
  simp only [bind, Option.bind, whole?_unpack_pack _ le_rfl, whole?_of_some rows, canvasOf?_rows]

end BufferScope.Png
