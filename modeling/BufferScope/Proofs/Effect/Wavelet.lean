/-
One call on the wavelet round trip. Whatever the numbers, it is refused for a fault of its input or
goes through: the two transforms never fail in it. Calls and resets never change its bank and its
mode. Read exactly, every call on a channel with samples leaves in each output that channel's samples,
to within a billionth of the channel's peak.
-/
import BufferScope.Effect.Wavelet
import BufferScope.Proofs.Audio.Buffer
import BufferScope.Proofs.Effect.History
import BufferScope.Proofs.Number
import BufferScope.Proofs.Wavelet.Shipped
import BufferScope.Proofs.Wavelet.Workspace

namespace BufferScope.WaveletRoundTrip

open BufferEffect (call)
open Decimal (exactValue)
open Wavelet (peak Workspace)

/-! ## One call -/

section Call

variable {σ ρ : Type} [Add ρ] [Sub ρ] [Mul ρ] [Neg ρ] [Zero ρ] [One ρ] [NatCast ρ] [Sample ρ σ]

/-- What an accepted call leaves: the input, its bands, and what a reconstruction in place makes of these. -/
def heard (e : WaveletRoundTrip ρ) (input : Array σ) (bands : Wavelet.Bands ρ) : WaveletRoundTrip ρ :=
  { e with
    signal := input.map Sample.widen
    approx := bands.approx
    detail := bands.detail
    reconstruction := Workspace.rebuilt e.bank bands }

/-- The answer of an accepted call. -/
def passed (e : WaveletRoundTrip ρ) (r : Request σ ρ) (input : Array σ) (bands : Wavelet.Bands ρ) :
    Processed (WaveletRoundTrip ρ) σ :=
  ⟨.ok (), e.heard input bands,
    r.outputs.map fun channel => Audio.aligned (Workspace.rebuilt e.bank bands) channel.size⟩

/-- A call refuses its input and touches nothing, or passes the input on through the bands. What its work vectors
held before makes no difference. -/
theorem call_cases (e : WaveletRoundTrip ρ) (r : Request σ ρ) :
    (∃ error, Audio.acceptedInput ρ r.inputs = .error error ∧ (call e r).answer = .refused e r.outputs error) ∨
    ∃ input, Audio.acceptedInput ρ r.inputs = .ok input ∧ ∃ bands,
      Wavelet.decompose e.bank e.mode (input.map (Sample.widen : σ → ρ)) = .ok bands ∧
      (call e r).answer = e.passed r input bands := by
  show (∃ error, _ ∧ (process e r.inputs r.outputs r.rate).value = _) ∨
    ∃ input, _ ∧ ∃ bands, _ ∧ (process e r.inputs r.outputs r.rate).value = _
  unfold process
  obtain ⟨error, -, refused⟩ | ⟨input, rest, -, nonempty, -, accepted⟩ :=
    Audio.acceptedInput_cases (ρ := ρ) r.inputs
  · rw [refused]
    exact .inl ⟨error, rfl, rfl⟩
  · have filled : 0 < (input.map (Sample.widen : σ → ρ)).size := by simpa using nonempty
    obtain ⟨bands, split, approx, detail, overlap⟩ := Wavelet.exists_bands e.bank e.mode filled
    refine .inr ⟨input, accepted, bands, split, ?_⟩
    rw [accepted]
    simp only [Workspace.decompose_eq, split, Workspace.reconstruct_eq_rebuilt _ _ (approx.trans detail.symm) overlap,
      Logged.value_bind, Logged.value_pure, Audio.value_fanOut]
    rfl

theorem fansOut : BufferEffect.FansOut (WaveletRoundTrip ρ) := by
  intro e r
  obtain ⟨error, -, ended⟩ | ⟨_, -, _, -, ended⟩ := call_cases e r
  · exact .inl ⟨error, ended⟩
  · rw [ended]
    exact .inr ⟨rfl, _, rfl⟩

theorem keepsLengths : BufferEffect.KeepsLengths (WaveletRoundTrip ρ) := fansOut.keepsLengths

/-! ## Configuration -/

theorem config_call (e : WaveletRoundTrip ρ) (r : Request σ ρ) :
    (call e r).answer.effect.bank = e.bank ∧ (call e r).answer.effect.mode = e.mode := by
  obtain ⟨_, _, ended⟩ | ⟨_, _, _, _, ended⟩ := call_cases e r
  · rw [ended]
    exact ⟨rfl, rfl⟩
  · rw [ended]
    exact ⟨rfl, rfl⟩

/-- A reachable effect has the bank and the mode of the new one. -/
theorem config_of_reachable {new e : WaveletRoundTrip ρ} (reached : BufferEffect.Reachable (σ := σ) new e) :
    e.bank = new.bank ∧ e.mode = new.mode := by
  induction reached with
  | start => exact ⟨rfl, rfl⟩
  | call r _ ih => exact ⟨(config_call _ r).1.trans ih.1, (config_call _ r).2.trans ih.2⟩
  | reset _ ih => exact ih

end Call

/-! ## Reconstruction -/

variable {K σ : Type} [Field K] [LinearOrder K] [IsStrictOrderedRing K] [Sample K σ]

/-- A new effect with the bank that the registry gives it, whose taps are read exactly. -/
def exact (K : Type) [Field K] : WaveletRoundTrip K := (new (Wavelet.db2.map fun tap => (exactValue tap : K))).value

/-- Two samples that are at most a bound apart. -/
def Near (bound : K) (a b : σ) : Prop := |(Sample.widen a : K) - Sample.widen b| ≤ bound

variable [ExactSample K σ]

/-- A call on a channel with samples succeeds, and every output gets one signal, which is near the
channel. -/
theorem call_near {e : WaveletRoundTrip K} (bank : e.bank = (exact K).bank) (r : Request σ K) {channel : Array σ}
    {rest : List (Array σ)} (handed : r.inputs = channel :: rest) (nonempty : 0 < channel.size) :
    (call e r).answer.result = .ok () ∧ ∃ reconstruction : Array K,
      (call e r).answer.outputs = r.outputs.map (fun output => Audio.aligned reconstruction output.size) ∧
      ∃ whole : channel.size ≤ reconstruction.size, ∀ n (inside : n < channel.size),
        |reconstruction[n] - Sample.widen channel[n]| ≤ peak (channel.map (Sample.widen : σ → K)) / 10 ^ 9 := by
  obtain ⟨taps, scaling, same, even, positive, small⟩ := Wavelet.exists_exact_scaling K Wavelet.db2 (by simp)
  obtain ⟨bands, reconstruction, split, joined, whole, near⟩ :=
    Wavelet.exists_near_roundTrip Wavelet.db2.name even positive scaling e.mode
      (channel.map (Sample.widen : σ → K)) (by simpa using nonempty)
  have accepted : Audio.acceptedInput K r.inputs = .ok channel := by
    rw [handed]
    exact Audio.acceptedInput_of_finite rest nonempty fun s _ => ExactSample.isFinite_eq s
  have bank : e.bank = .ofScaling Wavelet.db2.name scaling := bank.trans same
  obtain ⟨_, refused, -⟩ | ⟨_, same, _, split', ended⟩ := call_cases e r
  · cases accepted.symm.trans refused
  cases accepted.symm.trans same
  rw [bank] at split'
  cases split.symm.trans split'
  have two : 2 ≤ taps := by
    obtain ⟨half, rfl⟩ := even
    omega
  have placed := Workspace.reconstruct_of_decompose even two (by simpa using nonempty) split
  cases joined.symm.trans placed
  rw [ended, passed, bank]
  simp only [Array.size_map] at whole near
  refine ⟨rfl, _, rfl, whole, fun n inside => ?_⟩
  have low : n < (channel.map (Sample.widen : σ → K)).size := by simpa using inside
  calc |(Workspace.rebuilt (.ofScaling Wavelet.db2.name scaling) bands)[n] - Sample.widen channel[n]|
      = |(Workspace.rebuilt (.ofScaling Wavelet.db2.name scaling) bands)[n] -
        (channel.map (Sample.widen : σ → K))[n]| := by
        rw [Array.getElem_map]
    _ ≤ Wavelet.deviation scaling * peak (channel.map (Sample.widen : σ → K)) := near n inside
    _ ≤ 1 / 10 ^ 9 * peak (channel.map (Sample.widen : σ → K)) :=
        mul_le_mul_of_nonneg_right small (Wavelet.peak_nonneg _)
    _ = peak (channel.map (Sample.widen : σ → K)) / 10 ^ 9 := by ring

theorem left_near {e : WaveletRoundTrip K} (bank : e.bank = (exact K).bank) (r : Request σ K) {channel : Array σ}
    {rest : List (Array σ)} (handed : r.inputs = channel :: rest) (nonempty : 0 < channel.size) {k : ℕ}
    {output : Array σ} (here : r.outputs[k]? = some output) (sized : output.size = channel.size) :
    List.Forall₂ (Near (peak (channel.map (Sample.widen : σ → K)) / 10 ^ 9))
      ((call e r).left k) channel.toList := by
  obtain ⟨-, reconstruction, outputs, whole, near⟩ := call_near bank r handed nonempty
  have left : (call e r).left k = (Audio.aligned reconstruction channel.size : Array σ).toList := by
    unfold Call.left
    rw [outputs, List.getElem?_map, here, ← sized]
    rfl
  rw [left, List.forall₂_iff_get]
  refine ⟨by simp, fun n low high => ?_⟩
  have inside : n < channel.size := by simpa using high
  have filled : n < (Audio.aligned reconstruction channel.size : Array σ).size := by simpa using inside
  have sample : (Audio.aligned reconstruction channel.size : Array σ)[n] = Sample.narrow reconstruction[n] := by
    rw [← Option.some_inj, ← Array.getElem?_eq_getElem, Audio.getElem?_aligned inside]
  unfold Near
  rw [List.get_eq_getElem, List.get_eq_getElem, Array.getElem_toList, Array.getElem_toList, sample,
    ExactSample.widen_narrow]
  exact near n inside

end BufferScope.WaveletRoundTrip
