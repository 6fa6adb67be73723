import Mathlib.Data.List.Basic
import TerminalDialogs.Widget.LineBuffer
import TerminalDialogs.Widget.TextArea

/-!
# Texts that are edited by positions

A text is held in parts around its cursor, so no position is ever looked up in it.  One that is
held in one part, with the position of the cursor in it, is edited by positions, and each of them
may be out of range.  `LineBuffer.Indexed` is a line held that way, and `TextArea.Indexed` are
several lines with a row and a column; an operation on them fails if it names a position that is
not there.

None does.  What a key does to a line or to lines it does to the same line or lines held by
positions (`LineBuffer.handleKey_indexed`, `TextArea.handleKey_indexed`), so a run from the start
never fails either.  The parts around a cursor are no more than a way to write down a cursor that
is in range (`TextArea.inRange_iff`): whatever names a line that is there and a place in it comes
from such parts, and nothing else does.
-/

namespace TerminalDialogs

/-! ## Positions in a list -/

namespace Positions

variable {α : Type}

/-- The elements from a position up to another one; `none` if these are no positions. -/
def slice? (l : List α) (start stop : Nat) : Option (List α) :=
  if start ≤ stop ∧ stop ≤ l.length then some ((l.take stop).drop start) else none

/-- A list with an element more at a position; `none` if this is no position. -/
def insertAt? (l : List α) (i : Nat) (a : α) : Option (List α) :=
  if i ≤ l.length then some (l.take i ++ a :: l.drop i) else none

/-- A list without the element at a position; `none` if there is none. -/
def removeAt? (l : List α) (i : Nat) : Option (List α) :=
  if i < l.length then some (l.eraseIdx i) else none

/-- A list cut at a position; `none` if this is no position. -/
def splitAt? (l : List α) (i : Nat) : Option (List α × List α) :=
  if i ≤ l.length then some (l.take i, l.drop i) else none

/-- A list with another element at a position; `none` if there is none, or if there is nothing to
put in its place. -/
def changeAt? (l : List α) (i : Nat) (change : α → Option α) : Option (List α) :=
  (l[i]?.bind change).map (l.set i)

variable {before after : List α} {a : α}

theorem length_le_append (before after : List α) : before.length ≤ (before ++ after).length := by
  rw [List.length_append]
  exact Nat.le_add_right _ _

theorem length_lt_append (before : List α) (a : α) (after : List α) :
    before.length < (before ++ a :: after).length := by
  rw [List.length_append, List.length_cons]
  omega

theorem length_concat_pos (l : List α) (a : α) : 0 < (l ++ [a]).length :=
  List.length_pos_of_ne_nil (List.append_ne_nil_of_right_ne_nil _ (List.cons_ne_nil _ _))

theorem length_concat_sub_one (l : List α) (a : α) :
    (l ++ [a]).length - 1 = l.length := by
  rw [List.length_append, List.length_singleton, Nat.add_sub_cancel]

theorem slice?_append {start : Nat} (h : start ≤ before.length) :
    slice? (before ++ after) start before.length = some (before.drop start) := by
  rw [slice?, if_pos ⟨h, length_le_append before after⟩, List.take_left]

theorem slice?_end :
    slice? (before ++ after) before.length (before ++ after).length = some after := by
  rw [slice?, if_pos ⟨length_le_append before after, Nat.le_refl _⟩, List.take_length,
    List.drop_left]

theorem insertAt?_append (a : α) :
    insertAt? (before ++ after) before.length a = some (before ++ a :: after) := by
  rw [insertAt?, if_pos (length_le_append before after), List.take_left, List.drop_left]

theorem removeAt?_append :
    removeAt? (before ++ a :: after) before.length = some (before ++ after) := by
  rw [removeAt?, if_pos (length_lt_append before a after),
    List.eraseIdx_append_of_length_le (Nat.le_refl _), Nat.sub_self, List.eraseIdx_cons_zero]

theorem splitAt?_append : splitAt? (before ++ after) before.length = some (before, after) := by
  rw [splitAt?, if_pos (length_le_append before after), List.take_left, List.drop_left]

/-- At the position behind a part stands what comes first behind it. -/
theorem getElem?_length (before after : List α) :
    (before ++ after)[before.length]? = after.head? := by
  rw [List.getElem?_append_right (Nat.le_refl _), Nat.sub_self, List.head?_eq_getElem?]

theorem getElem?_append : (before ++ a :: after)[before.length]? = some a :=
  getElem?_length before (a :: after)

theorem set_append (b : α) :
    (before ++ a :: after).set before.length b = before ++ b :: after := by
  rw [List.set_append_right _ _ (Nat.le_refl _), Nat.sub_self]
  rfl

theorem changeAt?_append (change : α → Option α) :
    changeAt? (before ++ a :: after) before.length change =
      (change a).map fun b => before ++ b :: after := by
  rw [changeAt?, getElem?_append, Option.bind_some]
  cases change a with
  | none => rfl
  | some b => exact congrArg some (set_append b)

/-- An element and what stands around it, at the position in which it is found. -/
theorem eq_append_of_getElem? {l : List α} {i : Nat} (h : l[i]? = some a) :
    ∃ before after, l = before ++ a :: after ∧ before.length = i := by
  obtain ⟨hi, rfl⟩ := List.getElem?_eq_some_iff.mp h
  refine ⟨l.take i, l.drop (i + 1), ?_, List.length_take_of_le (Nat.le_of_lt hi)⟩
  rw [← List.drop_eq_getElem_cons hi, List.take_append_drop]

end Positions

open Positions

/-! ## A line with the position of its cursor -/

namespace LineBuffer

variable {b : LineBuffer}

/-- A line with the position of its cursor. -/
structure Indexed where
  chars : Text
  cursor : Nat
  limit : Nat
  deriving DecidableEq, Repr

namespace Indexed

/-- A text with the cursor at its end, cut at the limit. -/
def ofText (value : Text) (limit : Nat) : Indexed :=
  let chars := if limit = 0 then value else value.take limit
  ⟨chars, chars.length, limit⟩

/-- Another position for the cursor. -/
def moveTo (b : Indexed) (cursor : Nat) : Indexed := { b with cursor }

/-- Puts a character before the cursor. -/
def insert (b : Indexed) (c : Char) : Option Indexed :=
  if b.limit ≠ 0 ∧ b.limit ≤ b.chars.length then some b
  else (insertAt? b.chars b.cursor c).map fun chars => { b with chars, cursor := b.cursor + 1 }

/-- Removes the character before the cursor. -/
def backspace (b : Indexed) : Option Indexed :=
  if b.cursor = 0 then some b
  else
    (removeAt? b.chars (b.cursor - 1)).map fun chars => { b with chars, cursor := b.cursor - 1 }

/-- Removes the character under the cursor. -/
def delete (b : Indexed) : Option Indexed :=
  if b.cursor < b.chars.length then (removeAt? b.chars b.cursor).map ({ b with chars := · })
  else some b

/-- Removes everything before the cursor. -/
def clearToStart (b : Indexed) : Option Indexed :=
  (slice? b.chars b.cursor b.chars.length).map fun chars => { b with chars, cursor := 0 }

/-- What a key does; `none` if a position is out of range. -/
def handleKey (b : Indexed) (k : Key) : Option Indexed :=
  match k.code with
  | .char c =>
      if k.ctrl then
        if c = 'a' then some (b.moveTo 0)
        else if c = 'e' then some (b.moveTo b.chars.length)
        else if c = 'u' then b.clearToStart
        else some b
      else b.insert c
  | .backspace => b.backspace
  | .delete => b.delete
  | .left => some (b.moveTo (b.cursor - 1))
  | .right => some (b.moveTo (min (b.cursor + 1) b.chars.length))
  | .home => some (b.moveTo 0)
  | .endKey => some (b.moveTo b.chars.length)
  | _ => some b

end Indexed

/-- A line held in one part. -/
def indexed (b : LineBuffer) : Indexed := ⟨b.value, b.cursor, b.limit⟩

theorem indexed_ofText (value : Text) (limit : Nat) :
    (ofText value limit).indexed = .ofText value limit := by
  rw [indexed, ofText, Indexed.ofText, LineBuffer.value, cursor, List.append_nil]

theorem insert_indexed (c : Char) : b.indexed.insert c = some (b.insert c).indexed := by
  have hfull : (b.limit ≠ 0 ∧ b.limit ≤ b.value.length) ↔ b.isFull = true := by
    rw [isFull, Bool.and_eq_true, bne_iff_ne, decide_eq_true_iff]
    rfl
  rw [Indexed.insert, indexed, insert]
  dsimp only
  by_cases h : b.isFull = true
  · rw [if_pos (hfull.mpr h), if_pos h]
    rfl
  · rw [if_neg (mt hfull.mp h), if_neg h, value, cursor, insertAt?_append, indexed, value,
      cursor, List.append_assoc, List.length_append]
    rfl

theorem backspace_indexed : b.indexed.backspace = some b.backspace.indexed := by
  rw [Indexed.backspace, indexed, backspace, indexed, value, value, cursor, cursor]
  dsimp only
  rcases List.eq_nil_or_concat' b.before with hbefore | ⟨before, c, hbefore⟩
  · rw [hbefore]
    rfl
  · rw [hbefore, List.length_append, List.length_singleton, if_neg (Nat.succ_ne_zero _),
      Nat.add_sub_cancel, List.append_assoc, List.singleton_append, removeAt?_append,
      List.dropLast_concat]
    rfl

theorem delete_indexed : b.indexed.delete = some b.delete.indexed := by
  rw [Indexed.delete, indexed, delete, indexed, value, value, cursor, cursor]
  dsimp only
  rcases hafter : b.after with _ | ⟨c, after⟩
  · rw [List.append_nil, if_neg (Nat.lt_irrefl _), List.tail_nil, List.append_nil]
  · rw [if_pos (length_lt_append b.before c after), removeAt?_append]
    rfl

theorem left_indexed : b.left.indexed = b.indexed.moveTo (b.cursor - 1) := by
  rw [left, indexed, indexed, Indexed.moveTo, value, value, cursor, cursor]
  rcases List.eq_nil_or_concat' b.before with hbefore | ⟨before, c, hbefore⟩
  · rw [hbefore]
    rfl
  · rw [hbefore, List.dropLast_concat, List.getLast?_concat, List.length_append,
      List.length_singleton, Nat.add_sub_cancel, List.append_assoc]
    rfl

theorem right_indexed :
    b.right.indexed = b.indexed.moveTo (min (b.cursor + 1) b.value.length) := by
  rw [right, indexed, indexed, Indexed.moveTo, value, value, cursor, cursor]
  rcases hafter : b.after with _ | ⟨c, after⟩
  · simp
  · simp

theorem toStart_indexed : b.toStart.indexed = b.indexed.moveTo 0 := rfl

theorem toEnd_indexed : b.toEnd.indexed = b.indexed.moveTo b.value.length := by
  rw [toEnd, indexed, value, cursor, List.append_nil]
  rfl

theorem clearToStart_indexed : b.indexed.clearToStart = some b.clearToStart.indexed := by
  rw [Indexed.clearToStart, indexed, value, cursor, slice?_end]
  rfl

/-- **A key names no position that is not there**, and does the same to a line whichever way this
is held. -/
theorem handleKey_indexed (k : Key) : b.indexed.handleKey k = some (b.handleKey k).indexed := by
  rw [Indexed.handleKey, handleKey, handleKey?]
  cases k.code with
  | char c =>
    dsimp only
    split
    · split
      · rfl
      · split
        · rw [Option.getD_some, toEnd_indexed]
          rfl
        · split
          · exact clearToStart_indexed
          · rfl
    · exact insert_indexed c
  | backspace => exact backspace_indexed
  | delete => exact delete_indexed
  | left => exact congrArg some left_indexed.symm
  | right => exact congrArg some right_indexed.symm
  | home => rfl
  | endKey => exact congrArg some toEnd_indexed.symm
  | _ => rfl

theorem foldlM_indexed (keys : List Key) :
    keys.foldlM Indexed.handleKey b.indexed = some (keys.foldl handleKey b).indexed := by
  induction keys generalizing b with
  | nil => rfl
  | cons k keys ih =>
    rw [List.foldlM_cons, handleKey_indexed]
    exact ih

end LineBuffer

/-! ## Lines with the position of their cursor -/

namespace TextArea

/-- Lines with the position of a cursor: its line, and its place in this line. -/
structure Indexed where
  lines : List Text
  row : Nat
  column : Nat
  limit : Nat
  deriving DecidableEq, Repr

namespace Indexed

/-- The whole text. -/
def value (a : Indexed) : Text := Text.unrows a.lines

/-- The number of characters, line breaks counted; `none` if there is no line. -/
def length (a : Indexed) : Option Nat :=
  let count := a.lines.foldr (fun line n => line.length + n) a.lines.length
  if count = 0 then none else some (count - 1)

/-- Whether the limit is reached. -/
def isFull (a : Indexed) : Option Bool :=
  if a.limit = 0 then some false else a.length.map (a.limit ≤ ·)

/-- Puts a character before the cursor. -/
def insert (a : Indexed) (c : Char) : Option Indexed := do
  if ← a.isFull then return a
  let lines ← changeAt? a.lines a.row (insertAt? · a.column c)
  return { a with lines, column := a.column + 1 }

/-- Breaks the line at the cursor. -/
def newline (a : Indexed) : Option Indexed := do
  if ← a.isFull then return a
  let (line, rest) ← splitAt? (← a.lines[a.row]?) a.column
  let lines ← insertAt? (a.lines.set a.row line) (a.row + 1) rest
  return { a with lines, row := a.row + 1, column := 0 }

/-- Puts a character of some given text before the cursor. -/
def take (a : Indexed) (c : Char) : Option Indexed :=
  if c = '\n' then a.newline else if c = '\r' then some a else a.insert c

/-- A text with the cursor at its end, as far as the limit allows. -/
def ofText (value : Text) (limit : Nat) : Option Indexed :=
  value.foldlM take ⟨[[]], 0, 0, limit⟩

/-- Removes the character before the cursor; at the start of a line, joins this line to the one
above. -/
def backspace (a : Indexed) : Option Indexed :=
  if 0 < a.column then do
    let lines ← changeAt? a.lines a.row (removeAt? · (a.column - 1))
    return { a with lines, column := a.column - 1 }
  else if 0 < a.row then do
    let line ← a.lines[a.row]?
    let lines ← removeAt? a.lines a.row
    let above ← lines[a.row - 1]?
    let lines ← changeAt? lines (a.row - 1) fun above => some (above ++ line)
    return { a with lines, row := a.row - 1, column := above.length }
  else some a

/-- Removes the character under the cursor; at the end of a line, joins the line below to it. -/
def delete (a : Indexed) : Option Indexed := do
  let line ← a.lines[a.row]?
  if a.column < line.length then
    let lines ← changeAt? a.lines a.row (removeAt? · a.column)
    return { a with lines }
  else if a.row + 1 < a.lines.length then
    let next ← a.lines[a.row + 1]?
    let lines ← removeAt? a.lines (a.row + 1)
    let lines ← changeAt? lines a.row fun line => some (line ++ next)
    return { a with lines }
  else return a

/-- Moves the cursor into another line, as far to the right as this line allows. -/
def enter (a : Indexed) (row : Nat) : Option Indexed := do
  let line ← a.lines[row]?
  return { a with row, column := min a.column line.length }

/-- Moves the cursor to the line above. -/
def up (a : Indexed) : Option Indexed := if 0 < a.row then a.enter (a.row - 1) else some a

/-- Moves the cursor to the line below. -/
def down (a : Indexed) : Option Indexed :=
  if a.row + 1 < a.lines.length then a.enter (a.row + 1) else some a

/-- Moves the cursor back, also into the line above. -/
def left (a : Indexed) : Option Indexed :=
  if 0 < a.column then some { a with column := a.column - 1 }
  else if 0 < a.row then do
    let above ← a.lines[a.row - 1]?
    return { a with row := a.row - 1, column := above.length }
  else some a

/-- Moves the cursor on, also into the line below. -/
def right (a : Indexed) : Option Indexed := do
  let line ← a.lines[a.row]?
  if a.column < line.length then return { a with column := a.column + 1 }
  else if a.row + 1 < a.lines.length then return { a with row := a.row + 1, column := 0 }
  else return a

/-- Moves the cursor to the start of its line. -/
def toStart (a : Indexed) : Indexed := { a with column := 0 }

/-- Moves the cursor to the end of its line. -/
def toEnd (a : Indexed) : Option Indexed := do
  let line ← a.lines[a.row]?
  return { a with column := line.length }

/-- What a key does; `none` if a position is out of range. -/
def handleKey (a : Indexed) (k : Key) : Option Indexed :=
  match k.code with
  | .char c =>
      if k.ctrl then
        if c = 'a' then some a.toStart else if c = 'e' then a.toEnd else some a
      else a.insert c
  | .enter => a.newline
  | .backspace => a.backspace
  | .delete => a.delete
  | .up => a.up
  | .down => a.down
  | .left => a.left
  | .right => a.right
  | .home => some a.toStart
  | .endKey => a.toEnd
  | _ => some a

/-- What keys make of a text; `none` if a position is out of range at any time. -/
def edit (value : Text) (limit : Nat) (keys : List Key) : Option Indexed := do
  keys.foldlM handleKey (← ofText value limit)

/-- The cursor is in a line that is there. -/
def InRange (a : Indexed) : Prop := ∃ line, a.lines[a.row]? = some line ∧ a.column ≤ line.length

end Indexed

/-- Lines held in one part. -/
def indexed (t : TextArea) : Indexed := ⟨t.lines, t.row, t.column, t.limit⟩

variable {t : TextArea}

theorem indexed_mk (above : List Text) (before after : Text) (below : List Text) (limit : Nat) :
    indexed ⟨above, before, after, below, limit⟩ =
      ⟨above ++ (before ++ after) :: below, above.length, before.length, limit⟩ :=
  rfl

/-- Lines held in parts are those whose cursor is in range. -/
theorem inRange_iff {a : Indexed} : a.InRange ↔ ∃ t : TextArea, t.indexed = a := by
  constructor
  · rintro ⟨line, hline, hcolumn⟩
    obtain ⟨above, below, hlines, hrow⟩ := eq_append_of_getElem? hline
    refine ⟨{ above, before := line.take a.column, after := line.drop a.column, below,
              limit := a.limit }, ?_⟩
    rw [indexed, lines, current, row, column, List.take_append_drop,
      List.length_take_of_le hcolumn, ← hlines, hrow]
  · rintro ⟨t, rfl⟩
    exact ⟨t.current, getElem?_append, length_le_append t.before t.after⟩

/-! ### Changes of the text -/

theorem length_indexed : t.indexed.length = some t.length := by
  have hsucc (lines : List Text) (n : Nat) : lines.foldr (fun line n => line.length + n) (n + 1) =
      lines.foldr (fun line n => line.length + n) n + 1 := by
    induction lines with
    | nil => rfl
    | cons line lines ih => rw [List.foldr_cons, List.foldr_cons, ih, Nat.add_assoc]
  have hlines : t.lines.length = t.lines.length - 1 + 1 := by
    rw [lines, List.length_append, List.length_cons]
    omega
  rw [Indexed.length, indexed, hlines, hsucc, length]
  rfl

theorem isFull_indexed : t.indexed.isFull = some t.isFull := by
  rw [Indexed.isFull, length_indexed, isFull]
  by_cases hlimit : t.limit = 0
  · rw [indexed, if_pos hlimit, hlimit]
    rfl
  · rw [indexed, if_neg hlimit, bne_iff_ne.mpr hlimit]
    rfl

theorem insert_indexed (c : Char) : t.indexed.insert c = some (t.insert c).indexed := by
  rw [Indexed.insert, isFull_indexed, insert]
  simp only [Option.bind_eq_bind, Option.bind_some]
  by_cases hfull : t.isFull = true
  · rw [if_pos hfull, if_pos hfull]
    rfl
  · rw [if_neg hfull, if_neg hfull, indexed, lines, row, changeAt?_append, current, column,
      insertAt?_append, indexed, lines, current, column, List.append_assoc, List.length_append]
    rfl

theorem newline_indexed : t.indexed.newline = some t.newline.indexed := by
  rw [Indexed.newline, isFull_indexed, newline]
  simp only [Option.bind_eq_bind, Option.bind_some]
  by_cases hfull : t.isFull = true
  · rw [if_pos hfull, if_pos hfull]
    rfl
  · have hlength : (t.above ++ [t.before]).length = t.above.length + 1 := List.length_append
    rw [if_neg hfull, if_neg hfull, indexed, lines, row, getElem?_append, Option.bind_some, current,
      column, splitAt?_append, Option.bind_some]
    dsimp only
    rw [set_append, ← hlength, List.append_cons, insertAt?_append]
    rfl

theorem take_indexed (c : Char) : t.indexed.take c = some (t.take c).indexed := by
  rw [Indexed.take, take]
  split
  · exact newline_indexed
  · split
    · rfl
    · exact insert_indexed c

theorem foldlM_take_indexed (s : Text) :
    s.foldlM Indexed.take t.indexed = some (s.foldl take t).indexed := by
  induction s generalizing t with
  | nil => rfl
  | cons c s ih =>
    rw [List.foldlM_cons, take_indexed]
    exact ih

theorem ofText_indexed (value : Text) (limit : Nat) :
    Indexed.ofText value limit = some (ofText value limit).indexed :=
  foldlM_take_indexed (t := { limit }) value

/-- A line is joined to the one above. -/
theorem Indexed.backspace_join (above : List Text) (line next : Text) (below : List Text)
    (limit : Nat) :
    backspace ⟨above ++ [line] ++ next :: below, (above ++ [line]).length, 0, limit⟩ =
      some ⟨above ++ (line ++ next) :: below, above.length, line.length, limit⟩ := by
  have hlines : above ++ [line] ++ below = above ++ line :: below := List.append_assoc ..
  rw [backspace, if_neg (Nat.lt_irrefl 0), if_pos (length_concat_pos above line)]
  simp only [getElem?_append, removeAt?_append, Option.bind_eq_bind, Option.bind_some,
    length_concat_sub_one, hlines, changeAt?_append, Option.map_some]
  rfl

theorem backspace_indexed : t.indexed.backspace = some t.backspace.indexed := by
  obtain ⟨above, before, after, below, limit⟩ := t
  rcases List.eq_nil_or_concat' before with rfl | ⟨before, c, rfl⟩
  · rcases List.eq_nil_or_concat' above with rfl | ⟨above, line, rfl⟩
    · rfl
    · refine (Indexed.backspace_join above line after below limit).trans ?_
      rw [backspace, List.getLast?_concat, List.dropLast_concat]
      rfl
  · have hline : before ++ [c] ++ after = before ++ c :: after := List.append_assoc ..
    have hne : (before ++ [c]).isEmpty = false := by simp
    rw [Indexed.backspace, indexed, column, if_pos (length_concat_pos before c),
      length_concat_sub_one, lines, row, current, changeAt?_append, hline, removeAt?_append,
      backspace, hne, List.dropLast_concat]
    rfl

/-- The line below is joined to a line. -/
theorem Indexed.delete_join (above : List Text) (line next : Text) (below : List Text)
    (limit : Nat) :
    delete ⟨above ++ line :: next :: below, above.length, line.length, limit⟩ =
      some ⟨above ++ (line ++ next) :: below, above.length, line.length, limit⟩ := by
  have hlines : above ++ line :: next :: below = above ++ [line] ++ next :: below :=
    List.append_cons ..
  have hback : above ++ [line] ++ below = above ++ line :: below := List.append_assoc ..
  have hrow : (above ++ [line]).length = above.length + 1 := List.length_append
  have hlt : above.length + 1 < (above ++ line :: next :: below).length := by simp
  rw [delete]
  simp only [getElem?_append, Option.bind_eq_bind, Option.bind_some]
  rw [if_neg (Nat.lt_irrefl _), if_pos hlt, ← hrow, hlines, getElem?_append, Option.bind_some,
    removeAt?_append, Option.bind_some, hback, changeAt?_append]
  rfl

theorem delete_indexed : t.indexed.delete = some t.delete.indexed := by
  obtain ⟨above, before, after, below, limit⟩ := t
  rcases after with _ | ⟨c, after⟩
  · rcases below with _ | ⟨next, below⟩
    · have hlast : ¬ above.length + 1 < (above ++ [before]).length := by simp
      rw [indexed_mk, List.append_nil, Indexed.delete, getElem?_append]
      simp only [Option.bind_eq_bind, Option.bind_some]
      rw [if_neg (Nat.lt_irrefl _), if_neg hlast]
      show _ = some (indexed ⟨above, before, [], [], limit⟩)
      rw [indexed_mk, List.append_nil]
      rfl
    · rw [indexed_mk, List.append_nil]
      exact Indexed.delete_join above before next below limit
  · rw [indexed_mk, Indexed.delete, getElem?_append]
    simp only [Option.bind_eq_bind, Option.bind_some]
    rw [if_pos (length_lt_append before c after), changeAt?_append, removeAt?_append]
    rfl

/-! ### Moves of the cursor -/

theorem Indexed.enter_append (above : List Text) (line : Text) (below : List Text)
    (row column limit : Nat) :
    enter ⟨above ++ line :: below, row, column, limit⟩ above.length =
      some (TextArea.enter above line below column limit).indexed := by
  rw [enter, getElem?_append]
  simp only [Option.bind_eq_bind, Option.bind_some]
  rw [TextArea.enter, indexed_mk, List.take_append_drop, List.length_take]
  rfl

theorem up_indexed : t.indexed.up = some t.up.indexed := by
  obtain ⟨above, before, after, below, limit⟩ := t
  rcases List.eq_nil_or_concat' above with rfl | ⟨above, line, rfl⟩
  · rfl
  · have hlines : above ++ [line] ++ (before ++ after) :: below =
        above ++ line :: (before ++ after) :: below := List.append_assoc ..
    rw [indexed_mk, hlines, Indexed.up, if_pos (length_concat_pos above line),
      length_concat_sub_one, Indexed.enter_append, up, List.getLast?_concat, List.dropLast_concat]
    rfl

theorem down_indexed : t.indexed.down = some t.down.indexed := by
  obtain ⟨above, before, after, below, limit⟩ := t
  rcases below with _ | ⟨line, below⟩
  · have hlast : ¬ above.length + 1 < (above ++ [before ++ after]).length := by simp
    rw [indexed_mk, Indexed.down, if_neg hlast]
    rfl
  · have hlt : above.length + 1 < (above ++ (before ++ after) :: line :: below).length := by simp
    have hlines : above ++ (before ++ after) :: line :: below =
        above ++ [before ++ after] ++ line :: below := List.append_cons ..
    have hrow : (above ++ [before ++ after]).length = above.length + 1 := List.length_append
    rw [indexed_mk, Indexed.down, if_pos hlt, ← hrow, hlines, Indexed.enter_append]
    rfl

/-- The cursor goes to the end of the line above. -/
theorem Indexed.left_above (above : List Text) (line : Text) (rest : List Text) (limit : Nat) :
    left ⟨above ++ line :: rest, (above ++ [line]).length, 0, limit⟩ =
      some ⟨above ++ line :: rest, above.length, line.length, limit⟩ := by
  rw [left, if_neg (Nat.lt_irrefl 0), if_pos (length_concat_pos above line),
    length_concat_sub_one, getElem?_append]
  rfl

theorem left_indexed : t.indexed.left = some t.left.indexed := by
  obtain ⟨above, before, after, below, limit⟩ := t
  rcases List.eq_nil_or_concat' before with rfl | ⟨before, c, rfl⟩
  · rcases List.eq_nil_or_concat' above with rfl | ⟨above, line, rfl⟩
    · rfl
    · have hlines : above ++ [line] ++ ([] ++ after) :: below = above ++ line :: after :: below :=
        List.append_assoc ..
      rw [indexed_mk, hlines]
      refine (Indexed.left_above above line (after :: below) limit).trans ?_
      rw [left, List.getLast?_nil, List.getLast?_concat, List.dropLast_concat]
      dsimp only
      rw [indexed_mk, List.append_nil]
      rfl
  · have hline : before ++ [c] ++ after = before ++ c :: after := List.append_assoc ..
    rw [indexed_mk, hline, Indexed.left, if_pos (length_concat_pos before c),
      length_concat_sub_one, left, List.getLast?_concat, List.dropLast_concat]
    rfl

theorem right_indexed : t.indexed.right = some t.right.indexed := by
  obtain ⟨above, before, after, below, limit⟩ := t
  rw [indexed_mk, Indexed.right, getElem?_append]
  simp only [Option.bind_eq_bind, Option.bind_some]
  rcases after with _ | ⟨c, after⟩
  · rw [List.append_nil, if_neg (Nat.lt_irrefl _)]
    rcases below with _ | ⟨line, below⟩
    · have hlast : ¬ above.length + 1 < (above ++ [before]).length := by simp
      rw [if_neg hlast]
      show _ = some (indexed ⟨above, before, [], [], limit⟩)
      rw [indexed_mk, List.append_nil]
      rfl
    · have hlt : above.length + 1 < (above ++ before :: line :: below).length := by simp
      rw [if_pos hlt]
      show _ = some (indexed ⟨above ++ [before ++ []], [], line, below, limit⟩)
      rw [indexed_mk, List.append_nil, List.append_assoc, List.length_append]
      rfl
  · rw [if_pos (length_lt_append before c after)]
    show _ = some (indexed ⟨above, before ++ [c], after, below, limit⟩)
    rw [indexed_mk, List.append_assoc, List.length_append]
    rfl

theorem toStart_indexed : t.indexed.toStart = t.toStart.indexed := rfl

theorem toEnd_indexed : t.indexed.toEnd = some t.toEnd.indexed := by
  rw [Indexed.toEnd, indexed, lines, row, getElem?_append, toEnd, indexed, lines]
  simp only [Option.bind_eq_bind, Option.bind_some, current, List.append_nil]
  rfl

/-- **A key names no position that is not there**, and does the same to lines whichever way these
are held. -/
theorem handleKey_indexed (k : Key) : t.indexed.handleKey k = some (t.handleKey k).indexed := by
  rw [Indexed.handleKey, handleKey]
  cases k.code with
  | char c =>
    dsimp only
    split
    · split
      · rfl
      · split
        · exact toEnd_indexed
        · rfl
    · exact insert_indexed c
  | enter => exact newline_indexed
  | backspace => exact backspace_indexed
  | delete => exact delete_indexed
  | up => exact up_indexed
  | down => exact down_indexed
  | left => exact left_indexed
  | right => exact right_indexed
  | home => rfl
  | endKey => exact toEnd_indexed
  | _ => rfl

theorem foldlM_indexed (keys : List Key) :
    keys.foldlM Indexed.handleKey t.indexed = some (keys.foldl handleKey t).indexed := by
  induction keys generalizing t with
  | nil => rfl
  | cons k keys ih =>
    rw [List.foldlM_cons, handleKey_indexed]
    exact ih

/-- **Lines that are edited by positions are edited all the way.** -/
theorem edit_indexed (value : Text) (limit : Nat) (keys : List Key) :
    Indexed.edit value limit keys =
      some (keys.foldl handleKey (ofText value limit)).indexed := by
  rw [Indexed.edit, ofText_indexed]
  exact foldlM_indexed keys

end TextArea
end TerminalDialogs
