/-!
# Which items are switched on, and in which order

The positions of the items that are on are listed in the order in which they
were switched on.  A limit, if there is one, is the greatest number of items
that can be on; switching on one more has no effect.
-/

namespace TerminalDialogs

/-- The positions that are on, in the order of switching. -/
structure Toggles where
  order : List Nat := []
  deriving DecidableEq, Repr

namespace Toggles

/-- Whether a position is on. -/
def contains (t : Toggles) (i : Nat) : Bool := t.order.contains i

/-- The number of positions that are on. -/
def count (t : Toggles) : Nat := t.order.length

/-- Whether none is on. -/
def isEmpty (t : Toggles) : Bool := t.order.isEmpty

/-- Switches a position on or off; zero is no limit. -/
def toggle (t : Toggles) (i limit : Nat) : Toggles :=
  if t.contains i then ⟨t.order.erase i⟩
  else if limit = 0 ∨ t.count < limit then ⟨t.order ++ [i]⟩
  else t

/-- Switches a position on if it is off. -/
def turnOn (t : Toggles) (limit i : Nat) : Toggles :=
  if t.contains i then t else t.toggle i limit

/-- The positions in ascending order. -/
def sorted (t : Toggles) : List Nat := t.order.mergeSort (· ≤ ·)

end Toggles

end TerminalDialogs
