import TerminalDialogs.Text

/-!
# Sets of characters given by ranges

Properties of characters are tables of ranges of code points.  A table is a
list of pairs of first and last members in ascending order.
-/

namespace TerminalDialogs
namespace Text

/-- Whether a character lies in one of the ranges. -/
def inRanges (ranges : List (Nat × Nat)) (c : Char) : Bool :=
  ranges.any fun r => r.1 ≤ c.toNat && c.toNat ≤ r.2

@[simp] theorem inRanges_nil (c : Char) : inRanges [] c = false := rfl

theorem inRanges_cons (r : Nat × Nat) (ranges : List (Nat × Nat)) (c : Char) :
    inRanges (r :: ranges) c = (decide (r.1 ≤ c.toNat) && decide (c.toNat ≤ r.2) ||
      inRanges ranges c) := by
  simp [inRanges]

end Text
end TerminalDialogs
