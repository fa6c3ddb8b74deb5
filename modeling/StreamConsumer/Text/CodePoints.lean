/-!
# Sets of characters

A set of characters as closed ranges of code points.  The ranges ascend and do not touch, so that a search can stop at
the first range behind the code point.
-/

namespace StreamConsumer.Text

/-- The ranges ascend from `least` on, with a code point to spare between each two. -/
def ascendFrom (least : Nat) : List (Nat × Nat) → Bool
  | [] => true
  | (lo, hi) :: rest => least ≤ lo && lo ≤ hi && ascendFrom (hi + 2) rest

structure CodePoints where
  ranges : List (Nat × Nat)
  ascending : ascendFrom 0 ranges = true := by decide

namespace CodePoints

/-- Search ascending ranges for a code point. -/
def search (n : Nat) : List (Nat × Nat) → Bool
  | [] => false
  | (lo, hi) :: rest => if n < lo then false else n ≤ hi || search n rest

def contains (set : CodePoints) (c : Char) : Bool := search c.toNat set.ranges

end CodePoints

end StreamConsumer.Text
