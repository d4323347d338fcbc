/-
Pictures of coloured pixels. A canvas has a pixel for every place from its top left corner on, and
painting outside of it changes nothing.
-/
namespace BufferScope

/-- A colour by its red, green and blue parts. -/
structure Color where
  red : UInt8
  green : UInt8
  blue : UInt8
  deriving DecidableEq, Repr

/-- A picture, row by row. -/
structure Canvas where
  width : Nat
  height : Nat
  pixels : Array Color
  size_pixels : pixels.size = width * height

namespace Canvas

/-- A canvas of one colour. -/
def filled (width height : Nat) (color : Color) : Canvas where
  width
  height
  pixels := Array.replicate (width * height) color
  size_pixels := Array.size_replicate

/-- A canvas that has `color x y` at each place. -/
def ofFn (width height : Nat) (color : Nat → Nat → Color) : Canvas where
  width
  height
  pixels := Array.ofFn fun i : Fin (width * height) => color (i.val % width) (i.val / width)
  size_pixels := Array.size_ofFn

/-- The colour of a place, if the canvas has it. -/
def get? (c : Canvas) (x y : Nat) : Option Color :=
  if x < c.width ∧ y < c.height then c.pixels[y * c.width + x]? else none

/-- Whether a place lies on the canvas. -/
def Has (c : Canvas) (x y : Int) : Prop := (0 ≤ x ∧ x < c.width) ∧ 0 ≤ y ∧ y < c.height

instance (c : Canvas) (x y : Int) : Decidable (c.Has x y) := inferInstanceAs (Decidable (_ ∧ _))

/-- Paints one pixel. -/
def put (c : Canvas) (x y : Int) (color : Color) : Canvas :=
  if c.Has x y then
    { c with
      pixels := c.pixels.setIfInBounds (y.toNat * c.width + x.toNat) color
      size_pixels := by simpa using c.size_pixels }
  else c

/-- The rows, from the top. -/
def rows (c : Canvas) : List (List Color) :=
  (List.range c.height).map fun y => (c.pixels.extract (y * c.width) ((y + 1) * c.width)).toList

@[simp] theorem width_put (c : Canvas) (x y : Int) (color : Color) : (c.put x y color).width = c.width := by
  unfold put; split <;> rfl

@[simp] theorem height_put (c : Canvas) (x y : Int) (color : Color) : (c.put x y color).height = c.height := by
  unfold put; split <;> rfl

theorem index_lt {c : Canvas} {x y : Nat} (hx : x < c.width) (hy : y < c.height) :
    y * c.width + x < c.pixels.size := by
  rw [c.size_pixels]
  calc y * c.width + x < y * c.width + c.width := by omega
    _ = (y + 1) * c.width := by rw [Nat.add_mul, Nat.one_mul]
    _ ≤ c.height * c.width := Nat.mul_le_mul_right _ hy
    _ = c.width * c.height := Nat.mul_comm ..

/-- Two places of a row-major picture share an index only if they are the same. -/
theorem index_inj {w x y x' y' : Nat} (hx : x < w) (hx' : x' < w) (h : y * w + x = y' * w + x') :
    x = x' ∧ y = y' := by
  have hw : 0 < w := by omega
  have e1 := congrArg (· % w) h
  have e2 := congrArg (· / w) h
  simp only [Nat.mul_add_mod_self_right, Nat.mod_eq_of_lt hx, Nat.mod_eq_of_lt hx'] at e1
  simp only [Nat.add_comm (_ * w), Nat.add_mul_div_right _ _ hw, Nat.div_eq_of_lt hx, Nat.div_eq_of_lt hx'] at e2
  omega

/-- Painting changes the colour of its place and of no other. -/
theorem get?_put (c : Canvas) (x y : Int) (color : Color) (i j : Nat) :
    (c.put x y color).get? i j =
      if c.Has x y ∧ x = i ∧ y = j then some color else c.get? i j := by
  by_cases hp : c.Has x y
  · obtain ⟨⟨hx0, hx⟩, hy0, hy⟩ := hp
    obtain ⟨a, rfl⟩ := Int.eq_ofNat_of_zero_le hx0
    obtain ⟨b, rfl⟩ := Int.eq_ofNat_of_zero_le hy0
    have ha : a < c.width := by omega
    have hb : b < c.height := by omega
    have hhas : c.Has a b := ⟨⟨hx0, hx⟩, hy0, hy⟩
    by_cases hij : i < c.width ∧ j < c.height
    · by_cases same : a = i ∧ b = j
      · obtain ⟨rfl, rfl⟩ := same
        simp [put, get?, hhas, hij, index_lt ha hb]
      · have apart : b * c.width + a ≠ j * c.width + i := fun h => same (index_inj ha hij.1 h)
        have elsewhere : ¬(c.Has a b ∧ (a : Int) = i ∧ (b : Int) = j) := fun h => same (by omega)
        rw [if_neg elsewhere]
        simp [put, get?, hhas, hij, apart]
    · have elsewhere : ¬(c.Has a b ∧ (a : Int) = i ∧ (b : Int) = j) := fun h => hij (by omega)
      rw [if_neg elsewhere]
      simp [put, get?, hhas, hij]
  · simp [put, hp]

end Canvas

end BufferScope
