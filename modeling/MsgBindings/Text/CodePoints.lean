/-!
Sets of code points as sorted tables. A set is the increasing list of the points at which
membership changes, starting outside of the set, so a point is a member exactly if an odd number
of marks is at or below it.
-/
namespace MsgBindings.Text

/-- A set of code points, as the increasing points at which membership changes. -/
structure CodePointSet where
  /-- The first member, the first point after it that is none, and so on. -/
  marks : Array Nat

namespace CodePointSet

/-- The number of marks at or below `n`, when it lies between `low` and `high`. Each step halves
    the distance, so `fuel` steps are enough for tables of `2 ^ fuel` marks. -/
def countUpTo (marks : Array Nat) (n : Nat) : (fuel low high : Nat) → Nat
  | 0, low, _ => low
  | fuel + 1, low, high =>
    if high ≤ low then low
    else
      let middle := (low + high) / 2
      if marks.getD middle 0 ≤ n then countUpTo marks n fuel (middle + 1) high
      else countUpTo marks n fuel low middle

/-- Whether the set holds a character. -/
def contains (set : CodePointSet) (c : Char) : Bool :=
  countUpTo set.marks c.toNat 32 0 set.marks.size % 2 == 1

end CodePointSet

end MsgBindings.Text
