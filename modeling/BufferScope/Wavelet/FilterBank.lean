/-
Orthogonal filter banks. A bank is derived from its scaling filter: the high-pass filter is the
scaling filter reversed with alternating signs, and decomposition runs both filters backwards.
-/
import BufferScope.Audio.Error

namespace BufferScope.Wavelet

/-- Two filters for decomposition and two for reconstruction, all with the same number of taps. -/
structure FilterBank (ρ : Type) where
  name : String
  taps : Nat
  decLow : Vector ρ taps
  decHigh : Vector ρ taps
  recLow : Vector ρ taps
  recHigh : Vector ρ taps

namespace FilterBank

variable {ρ : Type}

/-- The quadrature mirror of a filter: reversed, with every second sign changed. -/
def mirror [Neg ρ] {n : Nat} (filter : Vector ρ n) : Vector ρ n :=
  Vector.ofFn fun k => if k.val % 2 = 0 then filter[n - 1 - k.val] else -filter[n - 1 - k.val]

/-- The bank of a scaling filter. -/
def ofScaling [Neg ρ] (name : String) {n : Nat} (scaling : Vector ρ n) : FilterBank ρ where
  name
  taps := n
  decLow := scaling.reverse
  decHigh := (mirror scaling).reverse
  recLow := scaling
  recHigh := mirror scaling

/-- The bank with every tap read as another kind of number. -/
def map {σ : Type} (f : ρ → σ) (bank : FilterBank ρ) : FilterBank σ where
  name := bank.name
  taps := bank.taps
  decLow := bank.decLow.map f
  decHigh := bank.decHigh.map f
  recLow := bank.recLow.map f
  recHigh := bank.recHigh.map f

/-- Banks are equal when their names and all their taps are. -/
instance [BEq ρ] : BEq (FilterBank ρ) where
  beq a b := a.name == b.name && a.decLow.toList == b.decLow.toList && a.decHigh.toList == b.decHigh.toList
    && a.recLow.toList == b.recLow.toList && a.recHigh.toList == b.recHigh.toList

end FilterBank

/-! ## The banks by name -/

/-- The Haar bank: both taps are the square root of one half. -/
def haar : FilterBank Float := .ofScaling "haar" #v[0.7071067811865476, 0.7071067811865476]

/-- The Daubechies bank with two vanishing moments. -/
def db2 : FilterBank Float :=
  .ofScaling "db2" #v[0.48296291314469025, 0.836516303737469, 0.22414386804185735, -0.12940952255092145]

/-- The Daubechies bank with three vanishing moments. -/
def db3 : FilterBank Float :=
  .ofScaling "db3" #v[0.3326705529509569, 0.8068915093133388, 0.4598775021193313, -0.13501102001039084,
    -0.08544127388224149, 0.035226291882100656]

/-- The bank that a name stands for. Letter case does not matter. -/
def FilterBank.named (name : String) : Except ConfigurationError (FilterBank Float) :=
  match name.toLower with
  | "haar" | "db1" => .ok haar
  | "db2" => .ok db2
  | "db3" => .ok db3
  | other => .error (.unknownWavelet other)

end BufferScope.Wavelet
