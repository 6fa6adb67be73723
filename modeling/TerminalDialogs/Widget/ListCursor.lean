/-!
# A cursor in a list of which some rows are shown

The cursor stands on an item, and the list is shown from some offset on.
Whenever the cursor moves, the offset follows it, so that the cursor is among
the rows shown.
-/

namespace TerminalDialogs

/-- Where the cursor stands, and the first item shown. -/
structure ListCursor where
  cursor : Nat := 0
  offset : Nat := 0
  deriving DecidableEq, Repr

namespace ListCursor

/-- How the cursor moves. -/
inductive Motion where
  | back (n : Nat)
  | forward (n : Nat)
  | first
  | last
  deriving DecidableEq, Repr

/-- The opposite motion. -/
def Motion.opposite : Motion → Motion
  | .back n => .forward n
  | .forward n => .back n
  | .first => .last
  | .last => .first

/-- Where a motion leads in a list of `count` items. -/
def Motion.target (m : Motion) (count cursor : Nat) : Nat :=
  match m with
  | .back n => min (cursor - n) (count - 1)
  | .forward n => min (cursor + n) (count - 1)
  | .first => 0
  | .last => count - 1

/-- Moves the offset as little as needed for the cursor to be among `rows`
rows. -/
def reveal (rows : Nat) (c : ListCursor) : ListCursor :=
  if c.cursor < c.offset then { c with offset := c.cursor }
  else if c.offset + rows ≤ c.cursor then { c with offset := c.cursor + 1 - rows }
  else c

/-- Moves the cursor in a list of `count` items; in an empty list it stays. -/
def move (count rows : Nat) (m : Motion) (c : ListCursor) : ListCursor :=
  if count = 0 then c else reveal rows { c with cursor := m.target count c.cursor }

theorem cursor_move_lt {count : Nat} (h : 0 < count) (rows : Nat) (m : Motion)
    (c : ListCursor) : (c.move count rows m).cursor < count := by
  have hne : count ≠ 0 := by omega
  simp only [move, hne, if_false, reveal]
  split
  · cases m <;> simp [Motion.target] <;> omega
  · split <;> cases m <;> simp [Motion.target] <;> omega

end ListCursor

/-- The rows that remain of a height below some lines, at least one, and no
more than a limit if there is one. -/
def listRows (height taken limit : Nat) : Nat :=
  let room := max (height - taken) 1
  if limit = 0 then room else min room limit

end TerminalDialogs
