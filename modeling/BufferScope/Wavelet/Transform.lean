/-
The single-level discrete wavelet transform and its inverse, over any kind of number. A signal of
`n` samples under filters of `f` taps has `⌊(n + f - 1) / 2⌋` coefficients per band, and `m`
coefficients per band reconstruct `2m + 2 - f` samples.
-/
import BufferScope.Audio.Error
import BufferScope.Wavelet.FilterBank
import BufferScope.Wavelet.Extension

namespace BufferScope.Wavelet

/-- The two bands of a decomposed signal. -/
structure Bands (ρ : Type) where
  approx : Array ρ
  detail : Array ρ
  deriving DecidableEq, Repr

/-- Coefficients per band. -/
def coefficientCount (samples taps : Nat) : Nat := (samples + taps - 1) / 2

/-- Samples of a reconstruction. -/
def reconstructionLength (coefficients taps : Nat) : Nat := 2 * coefficients + 2 - taps

variable {ρ : Type} [Add ρ] [Mul ρ] [Zero ρ]

/-- One coefficient of a band: the filter applied backwards from the extended sample at `center`. -/
def coefficient [Sub ρ] [NatCast ρ] {taps : Nat} (filter : Vector ρ taps) (mode : Extension)
    (signal : Array ρ) (nonempty : 0 < signal.size) (center : Int) : ρ :=
  Fin.foldl taps (fun sum tap => sum + filter[tap] * mode.sampleAt signal nonempty (center - tap.val)) 0

/-- One band: the coefficients at the odd places of the full convolution. -/
def band [Sub ρ] [NatCast ρ] {taps : Nat} (filter : Vector ρ taps) (mode : Extension)
    (signal : Array ρ) (nonempty : 0 < signal.size) : Array ρ :=
  Array.ofFn fun k : Fin (coefficientCount signal.size taps) =>
    coefficient filter mode signal nonempty (2 * k.val + 1 : Nat)

/-- Splits a signal into its bands. Only the empty signal has none. -/
def decompose [Sub ρ] [NatCast ρ] (bank : FilterBank ρ) (mode : Extension) (signal : Array ρ) :
    Except TransformError (Bands ρ) :=
  if nonempty : 0 < signal.size then
    .ok ⟨band bank.decLow mode signal nonempty, band bank.decHigh mode signal nonempty⟩
  else .error .nothingToDecompose

/-- One sample of a reconstruction. Sample `n` uses the taps of the parity of `n`, against the
coefficients from `n / 2 + taps / 2 - 1` downwards. -/
def reconstructedAt (bank : FilterBank ρ) (bands : Bands ρ) (same : bands.approx.size = bands.detail.size)
    (n : Fin (reconstructionLength bands.approx.size bank.taps)) : ρ :=
  have bound := n.isLt
  Fin.foldl (bank.taps / 2) (fun sum j =>
    have tap : 2 * j.val + n.val % 2 < bank.taps := by omega
    have last : n.val / 2 + (bank.taps / 2 - 1 - j.val) < bands.approx.size := by
      unfold reconstructionLength at bound; omega
    sum + (bank.recLow[2 * j.val + n.val % 2] * bands.approx[n.val / 2 + (bank.taps / 2 - 1 - j.val)]
      + bank.recHigh[2 * j.val + n.val % 2] * bands.detail[n.val / 2 + (bank.taps / 2 - 1 - j.val)])) 0

/-- Puts a signal together from two bands of one length, long enough for the filters to overlap. -/
def reconstruct (bank : FilterBank ρ) (bands : Bands ρ) : Except TransformError (Array ρ) :=
  if same : bands.approx.size = bands.detail.size then
    if bands.approx.size < bank.taps / 2 then
      .error (.tooFewCoefficients bank.name (bank.taps / 2) bands.approx.size)
    else .ok (Array.ofFn (reconstructedAt bank bands same))
  else .error (.bandLengths bands.approx.size bands.detail.size)

/-! ## Working buffers -/

/-- Buffers for a signal and its bands, kept from call to call. A call that fails leaves them as
they were. -/
structure Workspace (ρ : Type) where
  signal : Array ρ := #[]
  approx : Array ρ := #[]
  detail : Array ρ := #[]

/-- The entry at a whole index, if that is inside. -/
def entry? {ρ : Type} (values : Array ρ) (index : Int) : Option ρ :=
  if 0 ≤ index then values[index.toNat]? else none

/-
The loops that fill the buffers check every index: their result is `none` where one falls outside a
buffer or a filter, which with an even number of taps it never does.
-/
namespace Workspace

/-- The centers of the windows of a decomposition: the odd places of the full convolution. -/
def centers (samples taps : Nat) : List Nat :=
  (List.range (samples + taps - 1)).filter fun center => center % 2 = 1

/-- The sums of a window for either band, with one more tap. -/
def withTap? [Sub ρ] [NatCast ρ] (bank : FilterBank ρ) (mode : Extension) (signal : Array ρ)
    (nonempty : 0 < signal.size) (center : Nat) (sums : ρ × ρ) (tap : Nat) : Option (ρ × ρ) := do
  let sample := mode.sampleAt signal nonempty ((center : Int) - tap)
  return (sums.1 + (← bank.decLow[tap]?) * sample, sums.2 + (← bank.decHigh[tap]?) * sample)

/-- The coefficients of one window, for either band. -/
def coefficientsAt? [Sub ρ] [NatCast ρ] (bank : FilterBank ρ) (mode : Extension) (signal : Array ρ)
    (nonempty : 0 < signal.size) (center : Nat) : Option (ρ × ρ) :=
  (List.range bank.taps).foldlM (withTap? bank mode signal nonempty center) (0, 0)

/-- The coefficients of all windows, in order. -/
def coefficients? [Sub ρ] [NatCast ρ] (bank : FilterBank ρ) (mode : Extension) (signal : Array ρ)
    (nonempty : 0 < signal.size) : Option (List (ρ × ρ)) :=
  (centers signal.size bank.taps).mapM (coefficientsAt? bank mode signal nonempty)

/-- Decomposes the signal into the band buffers, which are emptied first. -/
def decompose [Sub ρ] [NatCast ρ] (w : Workspace ρ) (bank : FilterBank ρ) (mode : Extension) :
    Except TransformError Unit × Workspace ρ :=
  if nonempty : 0 < w.signal.size then
    let coefficients := (coefficients? bank mode w.signal nonempty).getD []
    (.ok (), { w with
      approx := coefficients.foldl (fun band c => band.push c.1) (w.approx.shrink 0)
      detail := coefficients.foldl (fun band c => band.push c.2) (w.detail.shrink 0) })
  else (.error .nothingToDecompose, w)

/-- The windows of a reconstruction: the last coefficient that each of them meets, and its number. -/
def windows (coefficients taps : Nat) : List (Nat × Nat) :=
  (List.range' (taps / 2 - 1) (coefficients - (taps / 2 - 1))).zipIdx

/-- The sums of a window for its even and its odd sample, with one more coefficient. -/
def withCoefficient? (bank : FilterBank ρ) (approx detail : Array ρ) (last : Nat) (sums : ρ × ρ) (j : Nat) :
    Option (ρ × ρ) := do
  let a ← entry? approx ((last : Int) - j)
  let d ← entry? detail ((last : Int) - j)
  return (sums.1 + ((← bank.recLow[2 * j]?) * a + (← bank.recHigh[2 * j]?) * d),
    sums.2 + ((← bank.recLow[2 * j + 1]?) * a + (← bank.recHigh[2 * j + 1]?) * d))

/-- The samples of one window, an even and an odd one. -/
def samplesAt? (bank : FilterBank ρ) (approx detail : Array ρ) (last : Nat) : Option (ρ × ρ) :=
  (List.range (bank.taps / 2)).foldlM (withCoefficient? bank approx detail last) (0, 0)

/-- The two samples of a window with the places that they are written to. -/
def pair? (bank : FilterBank ρ) (approx detail : Array ρ) (window : Nat × Nat) : Option (List (Nat × ρ)) := do
  let (even, odd) ← samplesAt? bank approx detail window.1
  return [(2 * window.2, even), (2 * window.2 + 1, odd)]

/-- The writes of all windows, in order. -/
def writes? (bank : FilterBank ρ) (approx detail : Array ρ) : Option (List (Nat × ρ)) := do
  let pairs ← (windows approx.size bank.taps).mapM (pair? bank approx detail)
  return pairs.flatten

/-- The buffer after some writes. -/
def written? (buffer : Array ρ) : List (Nat × ρ) → Option (Array ρ)
  | [] => some buffer
  | (place, sample) :: rest => if inside : place < buffer.size then written? (buffer.set place sample) rest else none

/-- Reconstructs the band buffers into the signal, which is filled with zeros first. -/
def reconstruct (w : Workspace ρ) (bank : FilterBank ρ) : Except TransformError Unit × Workspace ρ :=
  if w.approx.size ≠ w.detail.size then (.error (.bandLengths w.approx.size w.detail.size), w)
  else if w.approx.size < bank.taps / 2 then
    (.error (.tooFewCoefficients bank.name (bank.taps / 2) w.approx.size), w)
  else
    let silence := Array.replicate (reconstructionLength w.approx.size bank.taps) 0
    (.ok (), { w with signal := ((writes? bank w.approx w.detail).bind (written? silence)).getD silence })

end Workspace

end BufferScope.Wavelet
