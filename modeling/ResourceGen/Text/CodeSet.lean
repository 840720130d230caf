/-!
# Sets of code points

A property of characters is kept as the ascending list of code points at which membership
changes: outside below the first boundary, inside from it on, outside again from the second.
A table of a standard is then one list of numbers.
-/

namespace ResourceGen.Text

/-- A set of code points, as the boundaries at which membership changes. -/
structure CodeSet where
  boundaries : List Nat

namespace CodeSet

/-- Membership, read off the boundaries that are not above `n`. -/
def flips : List Nat → Nat → Bool
  | [], _ => false
  | b :: bs, n => if n < b then false else !flips bs n

/-- Whether the code point `n` is in the set. -/
def contains (s : CodeSet) (n : Nat) : Bool := flips s.boundaries n

end CodeSet

end ResourceGen.Text
