/-
Whole numbers as bytes, least significant first, and readers that take bytes from the front of a
file. `valueOf_bytesOf` says that a number is read back from its bytes.
-/
import BufferScope.Audio.Error

namespace BufferScope.Wave

/-- The `width` low bytes of a number. -/
def bytesOf : (width : Nat) → Nat → List UInt8
  | 0, _ => []
  | width + 1, n => UInt8.ofNat n :: bytesOf width (n / 256)

/-- The number that bytes stand for. -/
def valueOf : List UInt8 → Nat
  | [] => 0
  | b :: rest => b.toNat + 256 * valueOf rest

@[simp] theorem length_bytesOf (width n : Nat) : (bytesOf width n).length = width := by
  induction width generalizing n with
  | zero => rfl
  | succ width ih => simp [bytesOf, ih]

theorem valueOf_bytesOf (width n : Nat) : valueOf (bytesOf width n) = n % Nat.pow 256 width := by
  induction width generalizing n with
  | zero => simp [bytesOf, valueOf, Nat.mod_one]
  | succ width ih =>
    have split : n % Nat.pow 256 (width + 1) = n % 256 + 256 * (n / 256 % Nat.pow 256 width) := by
      rw [show Nat.pow 256 (width + 1) = 256 * Nat.pow 256 width from Nat.mul_comm .., Nat.mod_mul]
    rw [bytesOf, valueOf, ih, UInt8.toNat_ofNat', split]

/-- The number that bytes stand for when their highest bit counts as negative. -/
def signedValueOf (bytes : List UInt8) : Int :=
  let value := valueOf bytes
  let bound := Nat.pow 256 bytes.length
  if 2 * value < bound then value else value - bound

/-! ## Taking bytes -/

/-- Takes from the front of the bytes that are left. -/
abbrev Reader (α : Type) : Type := StateT (List UInt8) (Except AudioError) α

/-- The next `count` bytes, which must be there. -/
def take (count : Nat) : Reader (List UInt8) := fun bytes =>
  let taken := bytes.take count
  if taken.length = count then .ok (taken, bytes.drop count) else .error (.file .truncated)

/-- The next number of `width` bytes. -/
def number (width : Nat) : Reader Nat := return valueOf (← take width)

/-- Passes over bytes. -/
def skip (count : Nat) : Reader Unit := do
  let _ ← take count

/-- Gives up on a malformed file. -/
def malformed {α : Type} (fault : WaveFault) : Reader α := throw (.codec (.malformed fault))

/-- Refuses a file when a condition holds. -/
def refuse (condition : Prop) [Decidable condition] (fault : WaveFault) : Reader Unit :=
  if condition then malformed fault else pure ()

end BufferScope.Wave
