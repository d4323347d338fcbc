/-
Whole numbers in documents, written in digits and read back.
-/
import Mathlib.Data.List.Basic
import Mathlib.Data.List.TakeWhile
import Mathlib.Tactic
import BufferScope.Toml.Document

namespace BufferScope.Toml

/-! ## Digits -/

variable {digits : List Char}

/-- Digits spell the same number whether read as hexadecimal digits or not. -/
theorem ofDigits_eq_ofDigitChars (each : ∀ c ∈ digits, c.isDigit = true) :
    ofDigits 10 digits = Nat.ofDigitChars 10 digits 0 := by
  unfold ofDigits
  rw [Nat.ofDigitChars_eq_foldl]
  refine List.foldl_ext _ _ _ fun n c member => ?_
  rw [Text.hexDigit?, if_pos (each c member)]
  rfl

/-- Where there are no underscores, there are no groups to look at. -/
theorem isGroupedAfter_of_not_mem {isDigit : Char → Bool} {cs : List Char} (none : '_' ∉ cs) :
    ∀ digit, isGroupedAfter isDigit digit cs = true := by
  induction cs with
  | nil => exact fun _ => rfl
  | cons c rest ih =>
    intro digit
    rw [isGroupedAfter]
    · exact ih (fun later => none (List.mem_cons_of_mem _ later)) _
    · rintro rfl
      exact absurd List.mem_cons_self none
    · rintro d rest rfl
      exact absurd List.mem_cons_self none

theorem unsigned_of_digits (each : ∀ c ∈ digits, c.isDigit = true) : unsigned digits = (false, digits) := by
  unfold unsigned
  split
  · exact absurd (each _ List.mem_cons_self) (by decide)
  · exact absurd (each _ List.mem_cons_self) (by decide)
  · rfl

theorem head?_toDigits {n : Nat} (positive : 0 < n) : (Nat.toDigits 10 n).head? ≠ some '0' := by
  induction n using Nat.strongRecOn with
  | _ n ih =>
    by_cases small : n < 10
    · have each : ∀ m : Fin 10, 0 < m.val → m.val.digitChar ≠ '0' := by decide
      rw [Nat.toDigits_of_lt_base small, List.head?_cons]
      exact fun same => each ⟨n, small⟩ positive (Option.some_inj.mp same)
    · rw [Nat.toDigits_of_base_le (by decide) (Nat.le_of_not_lt small),
        List.head?_append_of_ne_nil _ Nat.toDigits_ne_nil]
      exact ih (n / 10) (by omega) (by omega)

/-- A whole number of at most 128 bits is read from its digits. -/
theorem decimalNumeral_toDigits {n : Nat} (small : n < 2 ^ 128) :
    decimalNumeral (Nat.toDigits 10 n) = some (.whole n) := by
  have each : ∀ c ∈ Nat.toDigits 10 n, c.isDigit = true := fun c member =>
    Nat.isDigit_of_mem_toDigits (by decide) (by decide) member
  have whole : ungrouped (Nat.toDigits 10 n) = Nat.toDigits 10 n := by
    refine List.filter_eq_self.mpr fun c member => ?_
    have : c ≠ '_' := fun same => Nat.underscore_not_in_toDigits (same ▸ member)
    simpa using this
  have value : ofDigits 10 (Nat.toDigits 10 n) = n := by
    rw [ofDigits_eq_ofDigitChars each, Nat.ofDigitChars_ten_toDigits]
  have bounded : boundedWhole n = .whole n := by
    unfold boundedWhole
    have : (Nat.pow 2 128 : Nat) = 2 ^ 128 := rfl
    rw [if_pos]
    simp only [Bool.and_eq_true, decide_eq_true_eq]
    omega
  have noZero : ((Nat.toDigits 10 n).head? = some '0' && Nat.toDigits 10 n ≠ ['0']) = false := by
    rcases Nat.eq_zero_or_pos n with rfl | positive
    · rfl
    · simp [head?_toDigits positive]
  unfold decimalNumeral isGrouped
  simp only [unsigned_of_digits each, whole, value, isGroupedAfter_of_not_mem Nat.underscore_not_in_toDigits,
    Bool.not_true, Bool.false_eq_true, if_false, noZero, List.all_eq_true.mpr each, if_true, bounded]

theorem readNumeral_toDigits {n : Nat} (small : n < 2 ^ 128) : readNumeral (Nat.toDigits 10 n) = some (.whole n) := by
  have each : ∀ c ∈ Nat.toDigits 10 n, c.isDigit = true := fun c member =>
    Nat.isDigit_of_mem_toDigits (by decide) (by decide) member
  have numeral := decimalNumeral_toDigits small
  have nonempty : Nat.toDigits 10 n ≠ [] := Nat.toDigits_ne_nil
  generalize Nat.toDigits 10 n = digits at each numeral nonempty ⊢
  have all : digits.dropWhile Char.isDigit = [] := List.dropWhile_eq_nil_iff.mpr each
  unfold readNumeral
  -- none of the forms that begin with a mark or spell a name consists of digits
  split
  · exact absurd (each 'x' (by simp)) (by decide)
  · exact absurd (each 'o' (by simp)) (by decide)
  · exact absurd (each 'b' (by simp)) (by decide)
  · simp only [unsigned_of_digits each]
    split
    · exact absurd (each 'i' (by simp)) (by decide)
    · exact absurd (each 'n' (by simp)) (by decide)
    · rw [all]
      simp only [nonempty, if_false, numeral]

end BufferScope.Toml
