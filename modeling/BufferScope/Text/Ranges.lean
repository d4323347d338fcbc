/-
Sets of characters, given by the codes at which they begin and end.
-/
namespace BufferScope.Text

/-- Whether a character is in the set with the given bounds: the codes from the first bound to before
the second are in it, those from there to before the third are not, and so on in turn. -/
def isBetween (bounds : Array Nat) (c : Char) : Bool :=
  bounds.foldl (fun inside bound => inside != decide (bound ≤ c.toNat)) false

end BufferScope.Text
