/-! # Ranges of characters

A class of characters is given by the ranges of code points that it is made of.
-/

namespace TrackedSettings.Text

/-- The first and the last code point of each range. -/
abbrev Ranges := Array (Nat × Nat)

def Ranges.has (ranges : Ranges) (c : Char) : Bool :=
  ranges.any fun (first, last) => first ≤ c.toNat && c.toNat ≤ last

end TrackedSettings.Text
