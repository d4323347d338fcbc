/-
Working buffers over histories of calls. Whatever they held before, the transforms leave in them what they would have
returned in new arrays, and a call that fails leaves them alone. No index falls outside a buffer or a filter:
the windows of a decomposition come to the promised number of coefficients, and those of a reconstruction write
each place once. -/
import BufferScope.Proofs.Wavelet.Transform

namespace BufferScope.Wavelet

variable {ρ : Type}

/-! ## Loops with checks -/

/-- A loop over two sums none of whose steps fails: each sum goes on by itself. -/
theorem foldlM_range_pair {α β : Type} {step : α × β → ℕ → Option (α × β)} :
    ∀ {n : ℕ} {f : α → Fin n → α} {g : β → Fin n → β},
      (∀ a b (i : Fin n), step (a, b) i = some (f a i, g b i)) →
      ∀ a b, (List.range n).foldlM step (a, b) = some (Fin.foldl n f a, Fin.foldl n g b)
  | 0, _, _, _, _, _ => by
    simp only [Fin.foldl_zero]
    rfl
  | n + 1, f, g, goes, a, b => by
    have before := foldlM_range_pair (f := fun a i => f a i.castSucc) (g := fun b i => g b i.castSucc)
      (fun a b i => goes a b i.castSucc) a b
    have last := goes (Fin.foldl n (fun a i => f a i.castSucc) a) (Fin.foldl n (fun b i => g b i.castSucc) b)
      (Fin.last n)
    rw [Fin.val_last] at last
    rw [List.range_succ, List.foldlM_append, before, Fin.foldl_succ_last, Fin.foldl_succ_last]
    simp only [Option.bind_eq_bind, Option.bind_some, List.foldlM_cons, List.foldlM_nil, last]
    rfl

theorem mapM_eq_some_map {α β : Type} {f : α → Option β} {g : α → β} {l : List α}
    (goes : ∀ a ∈ l, f a = some (g a)) :
    l.mapM f = some (l.map g) := by
  induction l with
  | nil => rfl
  | cons a rest ih =>
    rw [List.mapM_cons, goes a List.mem_cons_self, ih fun b later => goes b (List.mem_cons_of_mem a later)]
    rfl

/-- With some places already written, the writes to the others go on from the first of them. -/
theorem Workspace.written?_append {writes : List (ℕ × ρ)} :
    ∀ {done left : List ρ}, writes.map Prod.fst = List.range' done.length left.length →
      written? (done ++ left).toArray writes = some (done ++ writes.map Prod.snd).toArray := by
  induction writes with
  | nil =>
    intro done left places
    have none : left = [] := by simpa using places
    rw [none]
    rfl
  | cons write rest ih =>
    intro done left places
    obtain ⟨place, sample⟩ := write
    cases left with
    | nil => cases places
    | cons old left =>
      rw [List.length_cons, List.range'_succ, List.map_cons] at places
      obtain ⟨rfl, later⟩ := List.cons.inj places
      -- what was at the place is gone, and the place counts as done
      have next := @ih (done ++ [sample]) left (by rw [later, List.length_append]; rfl)
      unfold written?
      rw [dif_pos (by simp)]
      simpa using next

/-- Writes to all places of a buffer, one after the other, leave nothing of what it held. -/
theorem Workspace.written?_of_places {writes : List (ℕ × ρ)} {buffer : Array ρ}
    (places : writes.map Prod.fst = List.range buffer.size) :
    written? buffer writes = some (writes.map Prod.snd).toArray := by
  rw [List.range_eq_range'] at places
  exact @written?_append ρ writes [] buffer.toList places

theorem Workspace.size_written? {writes : List (ℕ × ρ)} : ∀ {buffer after : Array ρ},
    written? buffer writes = some after → after.size = buffer.size := by
  induction writes with
  | nil =>
    intro buffer after wrote
    cases wrote
    rfl
  | cons write rest ih =>
    intro buffer after wrote
    unfold written? at wrote
    split at wrote
    · exact (ih wrote).trans (Array.size_set _)
    · cases wrote

namespace Workspace

variable [Add ρ] [Mul ρ] [Zero ρ]

/-! ## Decomposition -/

/-- There is a window for every coefficient. -/
theorem centers_eq (samples taps : ℕ) :
    centers samples taps = (List.range (coefficientCount samples taps)).map fun k => 2 * k + 1 := by
  unfold centers coefficientCount
  induction samples + taps - 1 with
  | zero => rfl
  | succ n ih =>
    rw [List.range_succ, List.filter_append, ih]
    obtain ⟨k, rfl | rfl⟩ := Nat.even_or_odd' n
    · have count : (2 * k + 1) / 2 = 2 * k / 2 := by omega
      have parity : 2 * k % 2 = 0 := by omega
      rw [count]
      simp [parity]
    · have count : (2 * k + 1 + 1) / 2 = k + 1 := by omega
      have count' : (2 * k + 1) / 2 = k := by omega
      have parity : (2 * k + 1) % 2 = 1 := by omega
      rw [count, count', List.range_succ, List.map_append]
      simp [parity]

section Decomposition

variable [Sub ρ] [NatCast ρ] (bank : FilterBank ρ) (mode : Extension) (signal : Array ρ)
  (nonempty : 0 < signal.size)

theorem coefficientsAt?_eq (center : ℕ) : coefficientsAt? bank mode signal nonempty center =
    some (coefficient bank.decLow mode signal nonempty center,
      coefficient bank.decHigh mode signal nonempty center) := by
  refine foldlM_range_pair (fun a d tap => ?_) 0 0
  unfold withTap?
  rw [Vector.getElem?_eq_getElem tap.isLt, Vector.getElem?_eq_getElem tap.isLt]
  rfl

/-- Every window of a decomposition stays inside the filters and has the coefficients of its center. -/
theorem coefficients?_eq : coefficients? bank mode signal nonempty =
    some ((List.range (coefficientCount signal.size bank.taps)).map fun k =>
      (coefficient bank.decLow mode signal nonempty (2 * k + 1 : ℕ),
        coefficient bank.decHigh mode signal nonempty (2 * k + 1 : ℕ))) := by
  unfold coefficients?
  rw [mapM_eq_some_map fun center _ => coefficientsAt?_eq bank mode signal nonempty center, centers_eq, List.map_map]
  rfl

theorem band_eq_toArray {taps : ℕ} (filter : Vector ρ taps) : band filter mode signal nonempty =
    ((List.range (coefficientCount signal.size taps)).map fun k =>
      coefficient filter mode signal nonempty (2 * k + 1 : ℕ)).toArray := by
  apply Array.ext
  · simp
  · intro k inside _
    rw [getElem_band]
    simp

/-- Decomposing in place is decomposing, with the bands in place of what the buffers held. -/
theorem decompose_eq (w : Workspace ρ) : w.decompose bank mode =
    match Wavelet.decompose bank mode w.signal with
    | .ok bands => (.ok (), { w with approx := bands.approx, detail := bands.detail })
    | .error e => (.error e, w) := by
  unfold decompose
  by_cases nonempty : 0 < w.signal.size
  · rw [dif_pos nonempty, decompose_of_nonempty bank mode w.signal nonempty, coefficients?_eq, Option.getD_some,
      band_eq_toArray, band_eq_toArray]
    simp
  · rw [dif_neg nonempty, Wavelet.decompose, dif_neg nonempty]

end Decomposition

/-! ## Reconstruction -/

theorem windows_eq (coefficients taps : ℕ) : windows coefficients taps =
    (List.range (coefficients - (taps / 2 - 1))).map fun number => (taps / 2 - 1 + number, number) := by
  unfold windows
  apply List.ext_getElem
  · simp
  · intro k inside _
    simp

/-- What comes in pairs for half of the numbers comes once for each. -/
theorem flatMap_pairs {α : Type} (f : ℕ → α) (n : ℕ) :
    (List.range n).flatMap (fun k => [f (2 * k), f (2 * k + 1)]) = (List.range (2 * n)).map f := by
  induction n with
  | zero => rfl
  | succ n ih =>
    have twice : 2 * (n + 1) = 2 * n + 1 + 1 := by omega
    rw [List.range_succ, List.flatMap_append, ih, twice, List.range_succ, List.range_succ]
    simp

section Reconstruction

variable (bank : FilterBank ρ) (even : Even bank.taps) (two : 2 ≤ bank.taps) (bands : Bands ρ)
  (same : bands.approx.size = bands.detail.size) (enough : bank.taps / 2 ≤ bands.approx.size)

include even two enough

/-- The samples of a window: at an even place and at the odd one after it. -/
theorem samplesAt?_eq {number : ℕ} (inside : number < bands.approx.size - (bank.taps / 2 - 1)) :
    ∃ (first : 2 * number < reconstructionLength bands.approx.size bank.taps)
      (second : 2 * number + 1 < reconstructionLength bands.approx.size bank.taps),
      samplesAt? bank bands.approx bands.detail (bank.taps / 2 - 1 + number) =
        some (reconstructedAt bank bands same ⟨2 * number, first⟩,
          reconstructedAt bank bands same ⟨2 * number + 1, second⟩) := by
  have first : 2 * number < reconstructionLength bands.approx.size bank.taps := by
    unfold reconstructionLength
    obtain ⟨half, taps⟩ := even
    omega
  have second : 2 * number + 1 < reconstructionLength bands.approx.size bank.taps := by
    unfold reconstructionLength
    obtain ⟨half, taps⟩ := even
    omega
  refine ⟨first, second, foldlM_range_pair (fun a d j => ?_) 0 0⟩
  have below := j.isLt
  have last : number + (bank.taps / 2 - 1 - j.val) < bands.approx.size := by omega
  have place : ((bank.taps / 2 - 1 + number : ℕ) : ℤ) - j.val = (number + (bank.taps / 2 - 1 - j.val) : ℕ) := by
    omega
  have tap : 2 * j.val < bank.taps := by omega
  have tap' : 2 * j.val + 1 < bank.taps := by omega
  have evenTap : 2 * j.val + 2 * number % 2 = 2 * j.val := by omega
  have oddTap : 2 * j.val + (2 * number + 1) % 2 = 2 * j.val + 1 := by omega
  have evenPlace : 2 * number / 2 = number := by omega
  have oddPlace : (2 * number + 1) / 2 = number := by omega
  unfold withCoefficient?
  rw [entry?_eq_some place last, entry?_eq_some place (same ▸ last), Vector.getElem?_eq_getElem tap,
    Vector.getElem?_eq_getElem tap, Vector.getElem?_eq_getElem tap', Vector.getElem?_eq_getElem tap']
  simp only [evenTap, oddTap, evenPlace, oddPlace]
  rfl

/-- The writes of a reconstruction: each sample to its place, from the first place to the last. -/
theorem writes?_eq : writes? bank bands.approx bands.detail =
    some ((List.finRange (reconstructionLength bands.approx.size bank.taps)).map fun n =>
      (n.val, reconstructedAt bank bands same n)) := by
  let sample (k : ℕ) : ρ := (Array.ofFn (reconstructedAt bank bands same))[k]?.getD 0
  have sample_eq : ∀ n : Fin (reconstructionLength bands.approx.size bank.taps),
      sample n = reconstructedAt bank bands same n := by
    intro n
    simp only [sample, Array.getElem?_ofFn, dif_pos n.isLt, Option.getD_some]
  have pairs : ∀ window ∈ windows bands.approx.size bank.taps, pair? bank bands.approx bands.detail window =
      some [(2 * window.2, sample (2 * window.2)), (2 * window.2 + 1, sample (2 * window.2 + 1))] := by
    intro window member
    rw [windows_eq] at member
    obtain ⟨number, inside, rfl⟩ := List.mem_map.mp member
    obtain ⟨first, second, found⟩ := samplesAt?_eq bank even two bands same enough (List.mem_range.mp inside)
    unfold pair?
    rw [found, sample_eq ⟨_, first⟩, sample_eq ⟨_, second⟩]
    rfl
  have length : reconstructionLength bands.approx.size bank.taps = 2 * (bands.approx.size - (bank.taps / 2 - 1)) := by
    unfold reconstructionLength
    obtain ⟨half, taps⟩ := even
    omega
  have placed : (List.finRange (reconstructionLength bands.approx.size bank.taps)).map
      (fun n => (n.val, reconstructedAt bank bands same n)) =
        (List.range (reconstructionLength bands.approx.size bank.taps)).map fun k => (k, sample k) := by
    rw [← List.map_coe_finRange_eq_range, List.map_map]
    exact List.map_congr_left fun n _ => by rw [Function.comp_apply, sample_eq]
  have flat := flatMap_pairs (fun k => (k, sample k)) (bands.approx.size - (bank.taps / 2 - 1))
  unfold writes?
  rw [placed, length, ← flat, mapM_eq_some_map pairs, windows_eq, List.map_map, List.flatMap_def]
  rfl

/-- All writes to a buffer of the right length leave the reconstruction, whatever the buffer held. -/
theorem exists_writes : ∃ writes, writes? bank bands.approx bands.detail = some writes ∧
    writes.map Prod.fst = List.range (reconstructionLength bands.approx.size bank.taps) ∧
    ∀ buffer : Array ρ, buffer.size = reconstructionLength bands.approx.size bank.taps →
      written? buffer writes = some (Array.ofFn (reconstructedAt bank bands same)) := by
  refine ⟨_, writes?_eq bank even two bands same enough, ?_, fun buffer sized => ?_⟩
  · rw [List.map_map]
    exact List.map_coe_finRange_eq_range
  · rw [written?_of_places (by rw [List.map_map, sized]; exact List.map_coe_finRange_eq_range), List.map_map]
    congr 1
    apply Array.ext
    · simp
    · intro k _ _
      simp

end Reconstruction

/-- Reconstructing in place is reconstructing, with the result in place of what the signal buffer held. -/
theorem reconstruct_eq (bank : FilterBank ρ) (even : Even bank.taps) (two : 2 ≤ bank.taps) (w : Workspace ρ) :
    w.reconstruct bank =
      match Wavelet.reconstruct bank ⟨w.approx, w.detail⟩ with
      | .ok signal => (.ok (), { w with signal })
      | .error e => (.error e, w) := by
  unfold reconstruct
  by_cases same : w.approx.size = w.detail.size
  · rw [if_neg (not_not.mpr same)]
    by_cases few : w.approx.size < bank.taps / 2
    · rw [if_pos few, Wavelet.reconstruct, dif_pos same, if_pos few]
    · obtain ⟨writes, found, -, write⟩ := exists_writes bank even two ⟨w.approx, w.detail⟩ same (not_lt.mp few)
      rw [if_neg few, reconstruct_of_overlap bank ⟨w.approx, w.detail⟩ same (not_lt.mp few)]
      dsimp only at found write ⊢
      rw [found, Option.bind_some, write _ (by simp), Option.getD_some]
  · rw [if_pos same, Wavelet.reconstruct, dif_neg same]

/-- What a reconstruction in place leaves in the signal buffer. -/
def rebuilt (bank : FilterBank ρ) (bands : Bands ρ) : Array ρ :=
  (reconstruct ⟨#[], bands.approx, bands.detail⟩ bank).2.signal

/-- It leaves that whatever the signal buffer held, with any number of taps. -/
theorem reconstruct_eq_rebuilt (bank : FilterBank ρ) (bands : Bands ρ) (same : bands.approx.size = bands.detail.size)
    (overlap : bank.taps / 2 ≤ bands.approx.size) (held : Array ρ) :
    reconstruct ⟨held, bands.approx, bands.detail⟩ bank =
      (.ok (), ⟨rebuilt bank bands, bands.approx, bands.detail⟩) := by
  unfold rebuilt reconstruct
  rw [if_neg (not_not.mpr same), if_neg (not_lt.mpr overlap), if_neg (not_not.mpr same), if_neg (not_lt.mpr overlap)]

theorem size_rebuilt (bank : FilterBank ρ) (bands : Bands ρ) (same : bands.approx.size = bands.detail.size)
    (overlap : bank.taps / 2 ≤ bands.approx.size) :
    (rebuilt bank bands).size = reconstructionLength bands.approx.size bank.taps := by
  unfold rebuilt reconstruct
  rw [if_neg (not_not.mpr same), if_neg (not_lt.mpr overlap)]
  dsimp only
  cases done : (writes? bank bands.approx bands.detail).bind
      (written? (Array.replicate (reconstructionLength bands.approx.size bank.taps) 0)) with
  | none => simp
  | some after =>
    obtain ⟨writes, -, wrote⟩ := Option.bind_eq_some_iff.mp done
    simpa using size_written? wrote

/-- With an even number of taps, it is the reconstruction into a new array. -/
theorem reconstruct_eq_ok_rebuilt {bank : FilterBank ρ} (even : Even bank.taps) (two : 2 ≤ bank.taps)
    (bands : Bands ρ) (same : bands.approx.size = bands.detail.size) (overlap : bank.taps / 2 ≤ bands.approx.size) :
    Wavelet.reconstruct bank bands = .ok (rebuilt bank bands) := by
  have joined := Wavelet.reconstruct_of_overlap bank bands same overlap
  have placed := reconstruct_eq bank even two ⟨#[], bands.approx, bands.detail⟩
  rw [joined, reconstruct_eq_rebuilt bank bands same overlap] at placed
  have left : rebuilt bank bands = _ := congrArg (fun ended => ended.2.signal) placed
  rw [joined, left]

/-- So it is for the bands of a signal. -/
theorem reconstruct_of_decompose [Sub ρ] [NatCast ρ] {bank : FilterBank ρ} (even : Even bank.taps)
    (two : 2 ≤ bank.taps) {mode : Extension} {signal : Array ρ} (nonempty : 0 < signal.size) {bands : Bands ρ}
    (split : Wavelet.decompose bank mode signal = .ok bands) :
    Wavelet.reconstruct bank bands = .ok (rebuilt bank bands) := by
  obtain ⟨_, split', approx, detail, overlap⟩ := exists_bands bank mode nonempty
  cases split.symm.trans split'
  exact reconstruct_eq_ok_rebuilt even two bands (approx.trans detail.symm) overlap

/-! ## One call -/

/-- A decomposition in place. It fails exactly for an empty signal, and then leaves the buffers alone; else the
bands are those that a decomposition into new arrays gives, pushed to the emptied band buffers coefficient by
coefficient, with no index outside, `⌊(n + f - 1) / 2⌋` to each. -/
structure Decomposes [Sub ρ] [NatCast ρ] (bank : FilterBank ρ) (mode : Extension) (before : Workspace ρ)
    (answer : Except TransformError Unit) (after : Workspace ρ) : Prop where
  fails_iff : answer.isOk = false ↔ before.signal.size = 0
  untouched : answer.isOk = false → after = before
  answers : answer = (Wavelet.decompose bank mode before.signal).map fun _ => ()
  filled : ∀ bands, Wavelet.decompose bank mode before.signal = .ok bands →
    after = { before with approx := bands.approx, detail := bands.detail }
  inside : ∀ nonempty : 0 < before.signal.size, ∃ coefficients,
    coefficients? bank mode before.signal nonempty = some coefficients ∧
    coefficients.length = (before.signal.size + bank.taps - 1) / 2 ∧
    after.approx = (coefficients.map Prod.fst).toArray ∧ after.detail = (coefficients.map Prod.snd).toArray

/-- A reconstruction in place. It fails exactly for bands of two lengths or too few coefficients, and then leaves the
buffers alone; else the signal is the one that a reconstruction into a new array gives. No index falls outside: the
places written are those from zero to `2m + 1 - f`, each once, so nothing is left of what was there. -/
structure Reconstructs (bank : FilterBank ρ) (before : Workspace ρ) (answer : Except TransformError Unit)
    (after : Workspace ρ) : Prop where
  fails_iff : answer.isOk = false ↔ before.approx.size ≠ before.detail.size ∨
    before.approx.size = before.detail.size ∧ before.approx.size < bank.taps / 2
  untouched : answer.isOk = false → after = before
  answers : answer = (Wavelet.reconstruct bank ⟨before.approx, before.detail⟩).map fun _ => ()
  filled : ∀ signal, Wavelet.reconstruct bank ⟨before.approx, before.detail⟩ = .ok signal →
    after = { before with signal }
  inside : answer.isOk = true → ∃ writes, writes? bank before.approx before.detail = some writes ∧
    writes.map Prod.fst = List.range (2 * before.approx.size + 2 - bank.taps) ∧
    ∀ buffer : Array ρ, buffer.size = 2 * before.approx.size + 2 - bank.taps →
      written? buffer writes = some after.signal

theorem decomposes [Sub ρ] [NatCast ρ] (bank : FilterBank ρ) (mode : Extension) (w : Workspace ρ) :
    Decomposes bank mode w (w.decompose bank mode).1 (w.decompose bank mode).2 := by
  rw [decompose_eq]
  by_cases nonempty : 0 < w.signal.size
  · have split := decompose_of_nonempty bank mode w.signal nonempty
    rw [split]
    refine ⟨⟨nofun, fun empty => by omega⟩, nofun, ?_, fun bands found => ?_, fun _ => ?_⟩
    · rw [split]
      rfl
    · cases split.symm.trans found
      rfl
    · refine ⟨_, coefficients?_eq bank mode w.signal nonempty, ?_, ?_, ?_⟩
      · rw [List.length_map, List.length_range]
        rfl
      · rw [List.map_map]
        exact band_eq_toArray mode w.signal nonempty bank.decLow
      · rw [List.map_map]
        exact band_eq_toArray mode w.signal nonempty bank.decHigh
  · have refused : Wavelet.decompose bank mode w.signal = .error .nothingToDecompose := dif_neg nonempty
    rw [refused]
    refine ⟨⟨fun _ => by omega, fun _ => rfl⟩, fun _ => rfl, ?_, fun bands found => ?_,
      fun filled => absurd filled nonempty⟩
    · rw [refused]
      rfl
    · cases refused.symm.trans found

theorem reconstructs (bank : FilterBank ρ) (even : Even bank.taps) (two : 2 ≤ bank.taps) (w : Workspace ρ) :
    Reconstructs bank w (w.reconstruct bank).1 (w.reconstruct bank).2 := by
  rw [reconstruct_eq bank even two]
  by_cases joins : w.approx.size = w.detail.size ∧ bank.taps / 2 ≤ w.approx.size
  · obtain ⟨same, enough⟩ := joins
    have joined := reconstruct_of_overlap bank ⟨w.approx, w.detail⟩ same enough
    obtain ⟨writes, found, places, write⟩ := exists_writes bank even two ⟨w.approx, w.detail⟩ same enough
    have size : reconstructionLength w.approx.size bank.taps = 2 * w.approx.size + 2 - bank.taps := rfl
    rw [joined]
    refine ⟨⟨nofun, fun fault => ?_⟩, nofun, ?_, fun signal result => ?_, fun _ => ⟨writes, found, ?_, ?_⟩⟩
    · omega
    · rw [joined]
      rfl
    · cases joined.symm.trans result
      rfl
    · rw [← size]
      exact places
    · exact fun buffer sized => write buffer (sized.trans size.symm)
  · obtain ⟨error, refused⟩ : ∃ error, Wavelet.reconstruct bank ⟨w.approx, w.detail⟩ = .error error := by
      unfold Wavelet.reconstruct
      by_cases same : w.approx.size = w.detail.size
      · rw [dif_pos same, if_pos (by dsimp only; omega)]
        exact ⟨_, rfl⟩
      · rw [dif_neg same]
        exact ⟨_, rfl⟩
    rw [refused]
    refine ⟨⟨fun _ => by omega, fun _ => rfl⟩, fun _ => rfl, ?_, fun signal found => ?_, nofun⟩
    · rw [refused]
      rfl
    · cases refused.symm.trans found

/-! ## Histories -/

/-- One use of the buffers. Between calls their owner puts anything into them. -/
inductive Task (ρ : Type) where
  | decompose (bank : FilterBank ρ) (mode : Extension)
  | reconstruct (bank : FilterBank ρ)
  | refill (buffers : Workspace ρ)

/-- Whether the filters of a task, if it has some, have an even number of taps. -/
def Task.HasEvenTaps : Task ρ → Prop
  | .decompose bank _ => Even bank.taps ∧ 2 ≤ bank.taps
  | .reconstruct bank => Even bank.taps ∧ 2 ≤ bank.taps
  | .refill _ => True

variable [Sub ρ] [NatCast ρ]

/-- What comes of a task, and the buffers after it. -/
def perform (w : Workspace ρ) : Task ρ → Except TransformError Unit × Workspace ρ
  | .decompose bank mode => w.decompose bank mode
  | .reconstruct bank => w.reconstruct bank
  | .refill buffers => (.ok (), buffers)

/-- A task that was performed on some buffers. -/
structure Performed (ρ : Type) where
  before : Workspace ρ
  task : Task ρ
  answer : Except TransformError Unit
  after : Workspace ρ

/-- The tasks of a history, each performed on the buffers that the one before left. -/
def history (w : Workspace ρ) : List (Task ρ) → List (Performed ρ)
  | [] => []
  | task :: rest => ⟨w, task, (w.perform task).1, (w.perform task).2⟩ :: history (w.perform task).2 rest

/-- What a task owes to the buffers. -/
def Performed.Sound (p : Performed ρ) : Prop :=
  match p.task with
  | .decompose bank mode => Decomposes bank mode p.before p.answer p.after
  | .reconstruct bank => Reconstructs bank p.before p.answer p.after
  | .refill buffers => p.after = buffers

theorem sound_perform (w : Workspace ρ) {task : Task ρ} (taps : task.HasEvenTaps) :
    Performed.Sound ⟨w, task, (w.perform task).1, (w.perform task).2⟩ := by
  cases task with
  | decompose bank mode => exact decomposes bank mode w
  | reconstruct bank => exact reconstructs bank taps.1 taps.2 w
  | refill buffers => rfl

/-- Buffers that are used again and again, with filters of an even number of taps. Whatever the tasks before left in
them, each transform fails exactly for what is wrong with its own input, leaves the buffers alone if it fails, and
else leaves in them what the transform into new arrays gives, staying inside of all buffers and filters. -/
theorem buffers_reused (start : Workspace ρ) (tasks : List (Task ρ)) (taps : ∀ task ∈ tasks, task.HasEvenTaps) :
    ∀ p ∈ start.history tasks, p.Sound := by
  induction tasks generalizing start with
  | nil => exact nofun
  | cons task rest ih =>
    intro p member
    rcases List.mem_cons.mp member with rfl | later
    · exact sound_perform start (taps task List.mem_cons_self)
    · exact ih (start.perform task).2 (fun t later => taps t (List.mem_cons_of_mem task later)) p later

/-- Four taps that are all one half in size. -/
def halves : FilterBank ℚ := .ofScaling "halves" #v[1 / 2, 1 / 2, 1 / 2, -1 / 2]

/-- An empty signal, bands of two lengths, and then a signal of three samples on its way through them. -/
def staleTasks : List (Task ℚ) :=
  [.decompose halves .zero, .refill ⟨#[5, -2, 7], #[9], #[8, 8]⟩, .reconstruct halves, .decompose halves .smooth,
    .reconstruct halves]

/-- The third task fails and leaves everything as it was. The fifth writes four places, each once, in a signal buffer of
three, and would leave the same in a buffer that holds anything else. -/
theorem buffers_reused_stale :
    (∀ task ∈ staleTasks, task.HasEvenTaps) ∧
    ∃ failed joined, (history ⟨#[], #[9], #[8, 8]⟩ staleTasks)[2]? = some failed ∧
      failed.answer.isOk = false ∧
      failed.after = failed.before ∧ (history ⟨#[], #[9], #[8, 8]⟩ staleTasks)[4]? = some joined ∧
      joined.before.signal = (#[5, -2, 7] : Array ℚ) ∧
      ∃ writes, writes? halves joined.before.approx joined.before.detail = some writes ∧
        writes.map Prod.fst = [0, 1, 2, 3] ∧ written? #[9, 9, 9, 9] writes = some joined.after.signal := by
  have even : Even 4 ∧ 2 ≤ 4 := by decide
  have taps : ∀ task ∈ staleTasks, task.HasEvenTaps := by
    simp only [staleTasks, List.forall_mem_cons]
    exact ⟨even, trivial, even, even, even, nofun⟩
  have sound := buffers_reused ⟨#[], #[9], #[8, 8]⟩ staleTasks taps
  refine ⟨taps, _, _, rfl, by decide +kernel, ?_, rfl, by decide +kernel, ?_⟩
  · have third : Reconstructs halves _ _ _ := sound _ (List.mem_of_getElem? (i := 2) rfl)
    exact third.untouched (by decide +kernel)
  · have fifth : Reconstructs halves _ _ _ := sound _ (List.mem_of_getElem? (i := 4) rfl)
    obtain ⟨writes, found, places, write⟩ := fifth.inside (by decide +kernel)
    exact ⟨writes, found, places.trans (by decide +kernel), write _ (by decide +kernel)⟩

end Workspace

end BufferScope.Wavelet
