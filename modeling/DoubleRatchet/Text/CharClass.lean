/-!
# Classes of characters

A class is a list of ranges of code points. A character belongs to it if a range holds its code
point.
-/

namespace DoubleRatchet

/-- A class of characters: ranges of code points, each by its first and its last one. -/
abbrev CharClass := List (Nat × Nat)

/-- Whether a character is in a class. -/
def CharClass.has (ranges : CharClass) (c : Char) : Bool :=
  ranges.any fun (first, last) => first ≤ c.toNat && c.toNat ≤ last

end DoubleRatchet
