/-
Clipping, read exactly. Each cut keeps those parameters of a stretch that satisfy one inequality, so the stretch that
is left of a segment is the set of its parameters inside the box, and nothing is left just if no point of the segment
lies there (`Box.clip_exact`). The pixels at the ends of what is left are pixels of the box, so no line is longer than
the box however far away the segment ends.
-/
import Mathlib.Order.Bounds.Basic
import BufferScope.Plot.Basic
import BufferScope.Proofs.Number
import BufferScope.Proofs.Plot.Line

namespace BufferScope.Plot

variable {K : Type} [Field K]

@[simp] theorem pointAt_zero (source target : Point K) : pointAt source target 0 = source := by
  simp [pointAt]

@[simp] theorem pointAt_one (source target : Point K) : pointAt source target 1 = target := by
  simp [pointAt]

variable [LinearOrder K]

theorem segmentPixels_of_clip [BEq K] [RealNumber K] {b : Box} {source target : Point K} {first last : Pixel}
    (clipped : b.clip source target = some (first, last)) : segmentPixels b source target = linePixels first last := by
  unfold segmentPixels
  rw [clipped]

/-- Whether a point lies in the box, its edges included. -/
def Box.Holds (b : Box) (p : Point K) : Prop :=
  ((b.left : K) ≤ p.x ∧ p.x ≤ (b.right : K)) ∧ (b.top : K) ≤ p.y ∧ p.y ≤ (b.bottom : K)

/-- The parameters in `[0, 1]` at which a segment lies in the box. -/
def Box.inside (b : Box) (source target : Point K) : Set K :=
  {t | t ∈ Set.Icc 0 1 ∧ b.Holds (pointAt source target t)}

/-! ## Cuts -/

/-- Whether what is left of a stretch is a set of parameters, from the least to the greatest. -/
def Stretch.Leaves : Option (Stretch K) → Set K → Prop
  | none, kept => kept = ∅
  | some s, kept => s.low ≤ s.high ∧ Set.Icc s.low s.high = kept

section Cuts

variable [IsStrictOrderedRing K] [BEq K] [LawfulBEq K]

/-- A cut keeps the parameters that satisfy its inequality. -/
theorem Stretch.leaves_cut {s : Stretch K} (forward : s.low ≤ s.high) (slope room : K) :
    Leaves (s.cut slope room) (Set.Icc s.low s.high ∩ {t | t * slope ≤ room}) := by
  obtain ⟨low, high⟩ := s
  unfold cut
  obtain negative | rfl | positive := lt_trichotomy slope 0
  · -- the segment comes in through this edge
    have half : {t | t * slope ≤ room} = {t | room / slope ≤ t} :=
      Set.ext fun t => (div_le_iff_of_neg negative).symm
    rw [if_neg (by simpa using negative.ne), if_pos negative, half]
    dsimp only
    split
    · next past =>
      exact Set.eq_empty_of_forall_notMem fun t ⟨inside, after⟩ => (past.trans_le after).not_ge inside.2
    · next reached =>
      rw [← max_def_lt]
      refine ⟨max_le forward (not_lt.mp reached), Set.ext fun t => ⟨?_, ?_⟩⟩
      · rintro ⟨after, before⟩
        exact ⟨⟨(le_max_left ..).trans after, before⟩, (le_max_right ..).trans after⟩
      · rintro ⟨⟨after, before⟩, entered⟩
        exact ⟨max_le after entered, before⟩
  · -- the segment runs along this edge, on one side of it
    rw [if_pos (by simp)]
    split
    · next outside =>
      exact Set.eq_empty_of_forall_notMem fun t ⟨_, below⟩ => (outside.trans_le' (mul_zero t ▸ below)).false
    · next fits =>
      refine ⟨forward, (Set.inter_eq_left.mpr fun t _ => ?_).symm⟩
      exact (mul_zero t).trans_le (not_lt.mp fits)
  · -- the segment goes out through this edge
    have half : {t | t * slope ≤ room} = {t | t ≤ room / slope} := Set.ext fun t => (le_div_iff₀ positive).symm
    rw [if_neg (by simpa using positive.ne'), if_neg positive.not_gt, half]
    dsimp only
    split
    · next past =>
      exact Set.eq_empty_of_forall_notMem fun t ⟨inside, before⟩ => (before.trans_lt past).not_ge inside.1
    · next reached =>
      rw [← min_def_lt]
      refine ⟨le_min (not_lt.mp reached) forward, Set.ext fun t => ⟨?_, ?_⟩⟩
      · rintro ⟨after, before⟩
        exact ⟨⟨after, before.trans (min_le_right ..)⟩, before.trans (min_le_left ..)⟩
      · rintro ⟨⟨after, before⟩, staying⟩
        exact ⟨after, le_min staying before⟩

/-- A cut of what is left. -/
theorem Stretch.Leaves.bind {left : Option (Stretch K)} {kept : Set K} (leaves : Leaves left kept) (slope room : K) :
    Leaves (left.bind fun s => s.cut slope room) (kept ∩ {t | t * slope ≤ room}) := by
  cases left with
  | none =>
    have nothing : kept = ∅ := leaves
    rw [nothing, Set.empty_inter]
    exact rfl
  | some s =>
    obtain ⟨forward, rfl⟩ := leaves
    exact leaves_cut forward slope room

/-- Four cuts, one an edge, leave the parameters at which a segment lies in the box. -/
theorem Box.leaves_stretch (b : Box) (source target : Point K) :
    Stretch.Leaves (b.stretch source target) (b.inside source target) := by
  have whole : Stretch.Leaves (some (⟨0, 1⟩ : Stretch K)) (Set.Icc 0 1) := ⟨zero_le_one, rfl⟩
  have cuts := (((whole.bind (-(target.x - source.x)) (source.x - (b.left : K))).bind (target.x - source.x)
    ((b.right : K) - source.x)).bind (-(target.y - source.y)) (source.y - (b.top : K))).bind (target.y - source.y)
    ((b.bottom : K) - source.y)
  simp only [Option.bind_some, Option.bind_assoc] at cuts
  refine (congrArg (Stretch.Leaves _) (Set.ext fun t => ?_)).mpr cuts
  unfold Box.inside Box.Holds pointAt
  simp only [Set.mem_ofPred_eq, Set.mem_inter_iff, mul_neg]
  constructor
  · rintro ⟨unit, ⟨left, right⟩, top, bottom⟩
    exact ⟨⟨⟨⟨unit, by linarith⟩, by linarith⟩, by linarith⟩, by linarith⟩
  · rintro ⟨⟨⟨⟨unit, left⟩, right⟩, top⟩, bottom⟩
    exact ⟨unit, ⟨by linarith, by linarith⟩, by linarith, by linarith⟩

/-- Nothing is left of a segment of which nothing lies in the box, or else a stretch from the least of its parameters
inside to the greatest. -/
theorem Box.stretch_cases (b : Box) (source target : Point K) :
    (b.stretch source target = none ∧ b.inside source target = ∅) ∨
      ∃ s, b.stretch source target = some s ∧ IsLeast (b.inside source target) s.low ∧
        IsGreatest (b.inside source target) s.high := by
  have leaves := b.leaves_stretch source target
  cases stretch : b.stretch source target with
  | none =>
    rw [stretch] at leaves
    exact .inl ⟨rfl, leaves⟩
  | some s =>
    rw [stretch] at leaves
    obtain ⟨forward, inside⟩ := leaves
    exact .inr ⟨s, rfl, inside ▸ isLeast_Icc forward, inside ▸ isGreatest_Icc forward⟩

end Cuts

section Ends

variable [IsStrictOrderedRing K] {b : Box} {source target : Point K} {t : K}

/-- A segment that begins in the box is in it from the beginning. -/
theorem pointAt_least (least : IsLeast (b.inside source target) t) (holds : b.Holds source) :
    pointAt source target t = source := by
  have zero : (0 : K) ∈ b.inside source target := ⟨⟨le_rfl, zero_le_one⟩, by rwa [pointAt_zero]⟩
  rw [(least.2 zero).antisymm least.1.1.1, pointAt_zero]

/-- A segment that ends in the box is in it to the end. -/
theorem pointAt_greatest (greatest : IsGreatest (b.inside source target) t) (holds : b.Holds target) :
    pointAt source target t = target := by
  have one : (1 : K) ∈ b.inside source target := ⟨⟨zero_le_one, le_rfl⟩, by rwa [pointAt_one]⟩
  rw [greatest.1.1.2.antisymm (greatest.2 one), pointAt_one]

end Ends

/-! ## The pixels at the ends -/

variable [IsStrictOrderedRing K] [FloorRing K] [RealNumber K] [ExactNumber K]

/-- A point of the box is rounded to a pixel of the box. -/
theorem Box.Holds.has_pixel {b : Box} {p : Point K} (holds : b.Holds p) : b.Has p.pixel :=
  ⟨⟨ExactNumber.le_round holds.1.1, ExactNumber.round_le holds.1.2⟩,
    ExactNumber.le_round holds.2.1, ExactNumber.round_le holds.2.2⟩

/-- No line between two pixels of a box has more moves than the longer side of the box. -/
theorem Box.Has.lineMoves_le {b : Box} {first last : Pixel} (begins : b.Has first) (ends : b.Has last) :
    (lineMoves first last : ℤ) ≤ max (b.right - b.left) (b.bottom - b.top) := by
  obtain ⟨⟨_, _⟩, _, _⟩ := begins
  obtain ⟨⟨_, _⟩, _, _⟩ := ends
  unfold lineMoves
  omega

variable [BEq K] [LawfulBEq K]

/-- Clipping, read exactly. Nothing is left just if no point of the segment lies in the box. If something is left, it
is from the least to the greatest parameter at which the segment lies in the box, and the pixels at its ends are those
points rounded; they are pixels of the box, and an end of the segment that lies in the box is rounded as it is. The
line between these pixels, walked without a bound, is the one that is drawn, and it has no more moves than the longer
side of the box. -/
theorem Box.clip_exact (b : Box) (source target : Point K) :
    (b.clip source target = none ↔ ∀ t ∈ Set.Icc (0 : K) 1, ¬b.Holds (pointAt source target t)) ∧
    ∀ first last, b.clip source target = some (first, last) →
      ∃ s, b.stretch source target = some s ∧
        IsLeast (b.inside source target) s.low ∧ IsGreatest (b.inside source target) s.high ∧
        first = (pointAt source target s.low).pixel ∧ last = (pointAt source target s.high).pixel ∧
        b.Has first ∧ b.Has last ∧
        (b.Holds source → first = source.pixel) ∧ (b.Holds target → last = target.pixel) ∧
        (LineWalk.start first last).Traces (segmentPixels b source target) ∧
        ((segmentPixels b source target).length : ℤ) ≤ max (b.right - b.left) (b.bottom - b.top) + 1 := by
  obtain ⟨stretch, nothing⟩ | ⟨s, stretch, least, greatest⟩ := b.stretch_cases source target
  · have clipped : b.clip source target = none := congrArg (Option.map _) stretch
    rw [clipped]
    refine ⟨⟨fun _ t unit holds => ?_, fun _ => rfl⟩, fun first last left => nomatch left⟩
    exact (Set.eq_empty_iff_forall_notMem.mp nothing) t ⟨unit, holds⟩
  · have clipped : b.clip source target = some _ := congrArg (Option.map _) stretch
    rw [segmentPixels_of_clip clipped, clipped]
    refine ⟨⟨fun nothing => (nomatch nothing), fun outside => absurd least.1.2 (outside _ least.1.1)⟩, ?_⟩
    rintro first last ⟨⟩
    have begins := least.1.2.has_pixel
    have ends := greatest.1.2.has_pixel
    refine ⟨s, stretch, least, greatest, rfl, rfl, begins, ends, fun holds => ?_, fun holds => ?_, ?_⟩
    · rw [pointAt_least least holds]
    · rw [pointAt_greatest greatest holds]
    · obtain ⟨traces, listed⟩ :=
        linePixels_eq (pointAt source target s.low).pixel (pointAt source target s.high).pixel
      refine ⟨traces, ?_⟩
      have moves := begins.lineMoves_le ends
      rw [listed, List.length_map, List.length_range]
      omega

/-- A segment that comes into the box through its left edge, at a half, and leaves it through the lower one. -/
theorem Box.clip_exact_half :
    (⟨0, 4, 0, 3⟩ : Box).clip (⟨-3, 1⟩ : Point ℚ) ⟨5, 5⟩ = some (⟨0, 3⟩, ⟨1, 3⟩) ∧
    IsLeast ((⟨0, 4, 0, 3⟩ : Box).inside (⟨-3, 1⟩ : Point ℚ) ⟨5, 5⟩) (3 / 8) ∧
    IsGreatest ((⟨0, 4, 0, 3⟩ : Box).inside (⟨-3, 1⟩ : Point ℚ) ⟨5, 5⟩) (1 / 2) ∧
    (segmentPixels ⟨0, 4, 0, 3⟩ (⟨-3, 1⟩ : Point ℚ) ⟨5, 5⟩).length ≤ 5 := by
  have clipped : (⟨0, 4, 0, 3⟩ : Box).clip (⟨-3, 1⟩ : Point ℚ) ⟨5, 5⟩ =
      some (⟨0, 3⟩, ⟨1, 3⟩) := by decide +kernel
  have left : (⟨0, 4, 0, 3⟩ : Box).stretch (⟨-3, 1⟩ : Point ℚ) ⟨5, 5⟩ = some ⟨3 / 8, 1 / 2⟩ := by
    decide +kernel
  obtain ⟨s, stretch, least, greatest, -, -, -, -, -, -, -, length⟩ :=
    ((⟨0, 4, 0, 3⟩ : Box).clip_exact (⟨-3, 1⟩ : Point ℚ) ⟨5, 5⟩).2 _ _ clipped
  cases left.symm.trans stretch
  exact ⟨clipped, least, greatest, Nat.cast_le.mp (length.trans (by decide))⟩

end BufferScope.Plot
