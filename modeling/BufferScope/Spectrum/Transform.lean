/-
The discrete Fourier sums of a signal of any length. The signal is split by the smallest prime
factor of its length into interleaved parts; the sums of the parts combine into those of the whole,
and a prime length is the case of parts with one sample.
-/
namespace BufferScope.Spectrum

/-- The smallest divisor of `n` from `d` on, looking at most `fuel` numbers ahead. A `d` whose
square exceeds `n` leaves only `n` itself. -/
def divisorFrom (n : Nat) : Nat → Nat → Nat
  | 0, _ => n
  | fuel + 1, d => if n < d * d then n else if n % d = 0 then d else divisorFrom n fuel (d + 1)

/-- The smallest prime factor of `n`, for `1 < n`. -/
def smallestFactor (n : Nat) : Nat := divisorFrom n n 2

theorem one_lt_divisorFrom (n : Nat) (hn : 1 < n) : ∀ fuel d, 1 < d → 1 < divisorFrom n fuel d
  | 0, _, _ => hn
  | fuel + 1, d, hd => by
    unfold divisorFrom
    split
    · exact hn
    · split
      · exact hd
      · exact one_lt_divisorFrom n hn fuel (d + 1) (by omega)

theorem divisorFrom_dvd (n : Nat) : ∀ fuel d, divisorFrom n fuel d ∣ n
  | 0, _ => Nat.dvd_refl n
  | fuel + 1, d => by
    unfold divisorFrom
    split
    · exact Nat.dvd_refl n
    · split
      · exact Nat.dvd_of_mod_eq_zero (by assumption)
      · exact divisorFrom_dvd n fuel (d + 1)

theorem one_lt_smallestFactor {n : Nat} (hn : 1 < n) : 1 < smallestFactor n :=
  one_lt_divisorFrom n hn n 2 (by decide)

theorem smallestFactor_dvd (n : Nat) : smallestFactor n ∣ n := divisorFrom_dvd n n 2

variable {κ : Type}

/-- Every `step`-th entry of `xs`, from entry `start` on. -/
def strided {n : Nat} (xs : Vector κ n) (step start : Nat) (early : start < step) : Vector κ (n / step) :=
  Vector.ofFn fun j =>
    have inside : start + step * j.val < n := by
      have := Nat.mul_le_mul_left step (Nat.succ_le_of_lt j.isLt)
      have := Nat.mul_div_le n step
      rw [Nat.mul_succ] at *
      omega
    xs[start + step * j.val]

/-- Combines the sums of `p` interleaved parts of `m` entries into the sums of the whole. -/
def combine [Add κ] [Zero κ] {p m : Nat} (n : Nat) (nonempty : 0 < m) (turn : Nat → κ → κ)
    (parts : Vector (Vector κ m) p) : Vector κ n :=
  Vector.ofFn fun k =>
    have inside : k.val % m < m := Nat.mod_lt _ nonempty
    Fin.foldl p (fun sum r => sum + turn (r.val * k.val % n) parts[r][k.val % m]) 0

/-- The sums `∑ turn (j * k) xs[j]` for each index `k` of `xs`, where `turn k` turns by `k / n` of the
circle: it multiplies by the `k`-th power of a root of one of order `n`. -/
def fourierSums [Add κ] [Zero κ] {n : Nat} (turn : Nat → κ → κ) (xs : Vector κ n) : Vector κ n :=
  if small : n ≤ 1 then xs
  else match factor : smallestFactor n with
    | p =>
      have large : 1 < p := factor ▸ one_lt_smallestFactor (by omega)
      have divides : p ∣ n := factor ▸ smallestFactor_dvd n
      have shorter : n / p < n := Nat.div_lt_self (by omega) large
      have nonempty : 0 < n / p := Nat.div_pos (Nat.le_of_dvd (by omega) divides) (by omega)
      combine n nonempty turn
        (Vector.ofFn fun r : Fin p => fourierSums (fun k => turn (p * k)) (strided xs p r.val r.isLt))
termination_by n

end BufferScope.Spectrum
