/-!
# Columns that share too little room

Columns that want more room than there is share all of it, such that neighbours differ as little as
possible in width, all differences taken together.  No column gets more than it wants.

All columns start from nothing.  Neighbours that want more form a *run*, and those of a run grow
together.  As long as a run grows, it parts from the columns at its ends, so each end that is not
the edge of the table costs one place of difference for each place that the columns of the run
gain.  The run that gains most for what it costs grows first, and of equal ones the last, until one
of its columns has what it wants or there is no more room; then what is left is shared equally, and
need not come out in whole numbers.
-/

namespace TerminalDialogs
namespace Table

/-- A column that shares the room: the width it has, and the one it wants. -/
structure Sharer where
  has : Nat
  wants : Nat
  deriving DecidableEq, Repr

namespace Sharer

/-- What a column wants more. -/
def lack (c : Sharer) : Nat := c.wants - c.has

/-- Whether a column wants more. -/
def isShort (c : Sharer) : Bool := c.has < c.wants

/-- A column that gets more. -/
def gain (c : Sharer) (places : Nat) : Sharer := { c with has := c.has + places }

end Sharer

/-- Neighbouring columns that want more, between the columns before and behind them. -/
structure Run where
  before : List Sharer
  columns : List Sharer
  after : List Sharer
  deriving DecidableEq, Repr

namespace Run

/-- How many ends of a run are not the edge of the table. -/
def ends (r : Run) : Nat := (if r.before.isEmpty then 0 else 1) + if r.after.isEmpty then 0 else 1

/-- Whether a run gains at least as much as another one for what it costs. -/
def gainsAsMuchAs (r s : Run) : Bool := s.columns.length * r.ends ≤ r.columns.length * s.ends

/-- How far a run can grow: until one of its columns has what it wants. -/
def reach (r : Run) : Nat := ((r.columns.map Sharer.lack).min?).getD 0

/-- All columns, when those of the run have grown. -/
def grown (r : Run) (places : Nat) : List Sharer :=
  r.before ++ r.columns.map (·.gain places) ++ r.after

/-- The widths of all columns when those of the run share some room equally, in parts of a place,
as many as the run has columns. -/
def split (r : Run) (room : Nat) : List Nat :=
  let parts := fun c : Sharer => c.has * r.columns.length
  r.before.map parts ++ r.columns.map (parts · + room) ++ r.after.map parts

end Run

/-- The runs of columns that come behind other ones.  A run begins where the column before it does
not want more. -/
def runs (before : List Sharer) : List Sharer → List Run
  | [] => []
  | c :: columns =>
      let later := runs (before ++ [c]) columns
      if c.isShort && !before.getLast?.any Sharer.isShort then
        ⟨before, (c :: columns).takeWhile Sharer.isShort,
          (c :: columns).dropWhile Sharer.isShort⟩ :: later
      else later

/-- The run that grows next. -/
def nextRun? (runs : List Run) : Option Run :=
  runs.foldl (fun best r => if best.all r.gainsAsMuchAs then some r else best) none

/-- The widths of columns that share some room, in parts of a place, and how many parts a place
has.  Each step gives some column what it wants, so there are no more steps than columns. -/
def share : (steps room : Nat) → List Sharer → Nat × List Nat
  | 0, _, columns => (1, columns.map Sharer.has)
  | steps + 1, room, columns =>
      match nextRun? (runs [] columns) with
      | none => (1, columns.map Sharer.has)
      | some r =>
          let needed := r.reach * r.columns.length
          if room < needed then (r.columns.length, r.split room)
          else share steps (room - needed) (r.grown r.reach)

end Table
end TerminalDialogs
