/-!
# Sets of Unicode code points given by intervals

The character properties that the library reads from the Unicode standard are tables of disjoint
intervals in ascending order. `CodePoints.contains` is membership of a character.
-/

namespace CredentialLease

/-- A set of code points, as intervals with both ends included. -/
abbrev CodePoints := List (Nat × Nat)

/-- Whether a code point lies in one of the intervals. -/
def CodePoints.containsCode : CodePoints → Nat → Bool
  | [], _ => false
  | (first, last) :: rest, code => (first ≤ code && code ≤ last) || containsCode rest code

/-- Whether a character lies in one of the intervals. -/
def CodePoints.contains (set : CodePoints) (c : Char) : Bool :=
  set.containsCode c.toNat

end CredentialLease
