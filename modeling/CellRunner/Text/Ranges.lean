/-!
# Sets of characters as ranges of code points
-/

set_option autoImplicit false

namespace CellRunner.Text

/-- Closed ranges of code points, ascending and apart. -/
abbrev Ranges := Array (Nat × Nat)

namespace Ranges

/-- Searches the ranges `lo` to `hi - 1` by halving; `fuel` bounds the number of halvings. -/
def search (rs : Ranges) (n : Nat) : Nat → Nat → Nat → Bool
  | 0, _, _ => false
  | fuel + 1, lo, hi =>
    if lo < hi then
      let mid := (lo + hi) / 2
      match rs[mid]? with
      | none => false
      | some (a, b) =>
        if n < a then search rs n fuel lo mid
        else if b < n then search rs n fuel (mid + 1) hi
        else true
    else false

def holds (rs : Ranges) (c : Char) : Bool := search rs c.toNat (rs.size + 1) 0 rs.size

end Ranges

end CellRunner.Text
