/-
The fast sums are the plain ones. Over any commutative ring, with turns by the powers of a root of
one, splitting a signal by the factors of its length and putting the sums of the parts together gives
`∑ w ^ (j * k) * x j` at every index `k`, whatever the length.
-/
import Mathlib.Algebra.BigOperators.Fin
import Mathlib.Logic.Equiv.Fin.Basic
import Mathlib.Tactic
import BufferScope.Proofs.Number
import BufferScope.Spectrum.Transform

namespace BufferScope.Spectrum

variable {κ : Type} [CommRing κ]

theorem mul_mod_eq (p m j k : ℕ) : p * (j * (k % m)) % (m * p) = p * j * k % (m * p) := by
  rw [Nat.mul_comm m p, Nat.mul_assoc, Nat.mul_mod_mul_left, Nat.mul_mod_mul_left, Nat.mul_mod_mod]

theorem get_ofFn {α : Type} {n : ℕ} (f : Fin n → α) (i : Fin n) : (Vector.ofFn f).get i = f i :=
  Vector.getElem_ofFn i.isLt

theorem get_combine {p m n : ℕ} (size : m * p = n) (nonempty : 0 < m) {w : κ} (closes : w ^ n = 1)
    {turn : ℕ → κ → κ} (turns : ∀ k z, turn k z = w ^ k * z) (xs : Vector κ n)
    (parts : Vector (Vector κ m) p) (inside : ∀ (j : Fin m) (r : Fin p), r.val + p * j.val < n)
    (sums : ∀ (r : Fin p) (k : Fin m),
      (parts.get r).get k = ∑ j : Fin m, (w ^ p) ^ (j * k : ℕ) * xs.get ⟨r + p * j, inside j r⟩)
    (k : Fin n) : (combine n nonempty turn parts).get k = ∑ j : Fin n, w ^ (j * k : ℕ) * xs.get j := by
  subst size
  unfold combine
  rw [get_ofFn, foldl_add_eq_sum, ← Equiv.sum_comp finProdFinEquiv,
    Fintype.sum_prod_type_right]
  refine Finset.sum_congr rfl fun r _ => ?_
  have period : ∀ a : ℕ, w ^ (a % (m * p)) = w ^ a := fun a => (pow_eq_pow_mod a closes).symm
  have part : (parts.get r).get ⟨k % m, Nat.mod_lt _ nonempty⟩ =
      ∑ j : Fin m, w ^ (p * j * k : ℕ) * xs.get ⟨r + p * j, inside j r⟩ := by
    refine (sums r ⟨k.val % m, Nat.mod_lt _ nonempty⟩).trans (Finset.sum_congr rfl fun j _ => ?_)
    rw [← pow_mul, ← period, mul_mod_eq p m j k.val, period]
  rw [turns, period]
  refine (congrArg (w ^ (r * k : ℕ) * ·) part).trans ?_
  rw [Finset.mul_sum]
  refine Finset.sum_congr rfl fun j _ => ?_
  rw [← mul_assoc, ← pow_add]
  rw [show finProdFinEquiv (j, r) = ⟨r + p * j, inside j r⟩ from rfl]
  ring

theorem get_fourierSums {n : ℕ} {w : κ} (closes : w ^ n = 1)
    {turn : ℕ → κ → κ} (turns : ∀ k z, turn k z = w ^ k * z) (xs : Vector κ n) (k : Fin n) :
    (fourierSums turn xs).get k = ∑ j : Fin n, w ^ (j * k : ℕ) * xs.get j := by
  induction n using Nat.strong_induction_on generalizing w turn with
  | _ n ih =>
    rw [fourierSums]
    split
    · rename_i small
      obtain rfl : n = 1 := by
        have := k.isLt
        omega
      rw [pow_one] at closes
      simp [closes, Fin.fin_one_eq_zero k]
    · rename_i large
      split
      have many : 1 < smallestFactor n := one_lt_smallestFactor (by omega)
      have divides : smallestFactor n ∣ n := smallestFactor_dvd n
      have whole : n / smallestFactor n * smallestFactor n = n := Nat.div_mul_cancel divides
      have shorter : n / smallestFactor n < n := Nat.div_lt_self (by omega) many
      have inside : ∀ (j : Fin (n / smallestFactor n)) (r : Fin (smallestFactor n)),
          r.val + smallestFactor n * j.val < n := fun j r =>
        lt_of_lt_of_eq (finProdFinEquiv (j, r)).isLt whole
      refine get_combine whole _ closes turns xs _ inside (fun r k => ?_) k
      rw [get_ofFn]
      refine (ih _ shorter (w := w ^ smallestFactor n) ?_ (fun k z => ?_) _ k).trans ?_
      · rw [← pow_mul, Nat.mul_comm, whole, closes]
      · rw [turns, pow_mul]
      · simp only [strided, get_ofFn]
        rfl

end BufferScope.Spectrum
