import TerminalDialogs.Proofs.Screen.Bare
import TerminalDialogs.Proofs.Text.Rows
import TerminalDialogs.Table.Cells

/-!
# Tables that differ in their colours only

A table is drawn by changing pens and by writing texts over cells.  Changing pens is
nothing when pens are taken away (`penless_restyle`), and texts are written without a look at
the pens (`penless_drawText`), so what the rows of a table show is told by the texts alone.
Where its columns stand and how many of them a character takes does not matter.
-/

namespace TerminalDialogs
namespace Table

open Screen Styled

variable {row passed rest : Row}

/-! ## Pens -/

theorem bare_restyle (start n : Nat) (style : Style) (row : Row) :
    Row.bare (restyle start n style row) = row.bare := by
  have hpens : Cell.bare ∘ (fun cell => { cell with pen := cell.pen.merge style }) = Cell.bare :=
    rfl
  have hparts : row.take start ++ (row.drop start).take n ++ row.drop (start + n) = row := by
    rw [List.append_assoc, ← List.drop_drop, List.take_append_drop, List.take_append_drop]
  rw [restyle, Row.bare, List.map_append, List.map_append, List.map_map, hpens, ← List.map_append,
    ← List.map_append, hparts, Row.bare]

theorem free_restyle (h : row.Free) (start n : Nat) (style : Style) :
    Row.Free (restyle start n style row) := by
  refine free_append.mpr ⟨free_append.mpr ⟨h.of_subset (List.take_subset _ _), ?_⟩,
    h.of_subset (List.drop_subset _ _)⟩
  intro cell hcell
  obtain ⟨other, ho, rfl⟩ := List.mem_map.mp hcell
  exact h other (List.mem_of_mem_drop (List.mem_of_mem_take ho))

theorem penless_restyle (start n : Nat) (style style' : Style) :
    Penless (restyle start n style) (restyle start n style') where
  bare_eq h := by rw [bare_restyle, bare_restyle, h]
  free h := free_restyle h _ _ _

/-! ## Texts in columns -/

theorem bare_joinLast (cluster : Text) (row : Row) :
    Row.bare (joinLast cluster row) = joinLast cluster row.bare := by
  rw [joinLast, joinLast, Row.bare, Row.bare, List.getLast?_map]
  cases row.getLast? with
  | none => rfl
  | some cell =>
    rw [Option.map_some, List.map_append, List.map_dropLast]
    rfl

theorem bare_append (a b : Row) : Row.bare (a ++ b) = a.bare ++ b.bare := List.map_append

theorem bare_drawCell (isFirst : Bool) (clusters : List Text) (passed rest : Row) :
    Row.bare (drawCell isFirst clusters passed rest) =
      drawCell isFirst clusters passed.bare rest.bare := by
  have hempty (row : Row) : row.bare.isEmpty = row.isEmpty := List.isEmpty_map
  induction clusters generalizing isFirst passed rest with
  | nil => exact bare_append passed rest
  | cons cluster clusters ih =>
    unfold drawCell
    rw [Row.length_bare]
    dsimp only
    split
    · exact bare_append passed rest
    · rcases rest with _ | ⟨cell, behind⟩
      · rw [ih, bare_joinLast]
        rfl
      · rw [Row.bare, Row.bare, List.map_cons, ← Row.bare, ← Row.bare]
        dsimp only
        rw [hempty]
        split
        · split
          · exact ih _ _ _
          · split
            · exact ih _ _ _
            · rw [ih, bare_joinLast]
              rfl
        · rw [ih, bare_append]
          simp only [Row.bare, List.map_cons, List.map_replicate, List.map_drop]
          rfl

theorem bare_drawText (start n : Nat) (s : Text) (row : Row) :
    Row.bare (drawText start n s row) = drawText start n s row.bare := by
  rw [drawText, drawText]
  split
  · rfl
  · rw [bare_append, bare_append, bare_drawCell]
    simp only [Row.bare, List.map_take, List.map_drop]
    rfl

theorem free_joinLast {cluster : Text} (hcluster : esc ∉ cluster) (h : row.Free) :
    Row.Free (joinLast cluster row) := by
  rw [joinLast]
  cases hlast : row.getLast? with
  | none => exact h
  | some cell =>
    refine free_append.mpr ⟨h.of_subset (List.dropLast_subset row), ?_⟩
    refine free_cons.mpr ⟨?_, fun _ ho => nomatch ho⟩
    exact fun hesc => (List.mem_append.mp hesc).elim (h cell (List.mem_of_getLast? hlast)) hcluster

theorem free_drawCell {isFirst : Bool} {clusters : List Text}
    (hclusters : ∀ cluster ∈ clusters, esc ∉ cluster) (hpassed : passed.Free)
    (hrest : rest.Free) : Row.Free (drawCell isFirst clusters passed rest) := by
  induction clusters generalizing isFirst passed rest with
  | nil => exact free_append.mpr ⟨hpassed, hrest⟩
  | cons cluster clusters ih =>
    obtain ⟨hcluster, hclusters⟩ := List.forall_mem_cons.mp hclusters
    unfold drawCell
    dsimp only
    split
    · exact free_append.mpr ⟨hpassed, hrest⟩
    · rcases rest with _ | ⟨cell, behind⟩
      · exact ih hclusters (free_joinLast hcluster hpassed) hrest
      · obtain ⟨hcell, hbehind⟩ := free_cons.mp hrest
        have hjoined : esc ∉ cell.symbol ++ cluster := fun hesc =>
          (List.mem_append.mp hesc).elim hcell hcluster
        dsimp only
        split
        · split
          · exact ih hclusters hpassed (free_cons.mpr ⟨hcluster, hbehind⟩)
          · split
            · exact ih hclusters hpassed (free_cons.mpr ⟨hjoined, hbehind⟩)
            · exact ih hclusters (free_joinLast hcluster hpassed) hrest
        · refine ih hclusters (free_append.mpr ⟨hpassed, free_cons.mpr ⟨?_, free_blanks _ {}⟩⟩)
            (hbehind.of_subset (List.drop_subset _ _))
          dsimp only
          split
          · exact hjoined
          · exact hcluster

theorem free_drawText (h : row.Free) (start n : Nat) (s : Text) :
    Row.Free (drawText start n s row) := by
  rw [drawText]
  split
  · exact h
  · refine free_append.mpr ⟨free_append.mpr ⟨h.of_subset (List.take_subset _ _), ?_⟩,
      h.of_subset (List.drop_subset _ _)⟩
    exact free_drawCell (fun _ => esc_notMem_of_mem_shownClusters) (fun _ ho => nomatch ho)
      ((h.of_subset (List.drop_subset _ _)).of_subset (List.take_subset _ _))

theorem penless_drawText (start n : Nat) (s : Text) :
    Penless (drawText start n s) (drawText start n s) :=
  .of_bare (bare_drawText start n s) fun h => free_drawText h start n s

theorem penless_drawCells (left : Nat) (extents : List Extent) (cells : List Text) :
    Penless (drawCells left extents cells) (drawCells left extents cells) := by
  unfold drawCells
  generalize extents.zip cells = pairs
  induction pairs with
  | nil => exact Penless.id
  | cons c pairs ih => exact (penless_drawText _ _ _).andThen ih

/-! ## Rows of the table -/

theorem penless_drawHead (f : Frame) (style style' : Style) (titles : List Text) :
    Penless (drawHead f style titles) (drawHead f style' titles) :=
  (penless_restyle _ _ _ _).andThen (penless_drawCells _ _ _)

theorem penless_drawRow (f : Frame) (style style' highlight highlight' : Style)
    (isSelected : Bool) (cells : List Text) :
    Penless (drawRow f style highlight isSelected cells)
      (drawRow f style' highlight' isSelected cells) := by
  have hmark : Penless
      (fun row => if isSelected && 0 < f.markWidth then
        drawText f.left f.markWidth selectionMark (restyle f.left f.markWidth style row) else row)
      fun row => if isSelected && 0 < f.markWidth then
        drawText f.left f.markWidth selectionMark (restyle f.left f.markWidth style' row)
        else row :=
    ((penless_restyle _ _ _ _).andThen (penless_drawText _ _ _)).ite Penless.id
  have hselected : Penless
      (fun row => if isSelected then restyle f.left f.inner highlight row else row)
      fun row => if isSelected then restyle f.left f.inner highlight' row else row :=
    (penless_restyle _ _ _ _).ite Penless.id
  exact (((penless_restyle f.left f.inner style style').andThen hmark).andThen
    (penless_drawCells f.cellsLeft f.extents cells)).andThen hselected

/-! ## Borders -/

theorem bare_borderRow (left middle right : Char) (width : Nat) (pen : Pen) :
    Row.bare (borderRow left middle right width pen) = borderRow left middle right width {} := by
  rcases width with _ | _ | width
  · rfl
  · rfl
  · rw [borderRow, bare_append, bare_append, Row.bare, Row.bare, List.map_replicate]
    rfl

theorem free_borderRow {left middle right : Char} (hleft : left ≠ esc) (hmiddle : middle ≠ esc)
    (hright : right ≠ esc) (width : Nat) (pen : Pen) :
    Row.Free (borderRow left middle right width pen) := by
  have hcell {c : Char} (hc : c ≠ esc) : esc ∉ (Cell.mk [c] pen).symbol := fun hesc =>
    hc (List.mem_singleton.mp hesc).symm
  have hnothing : Row.Free [] := fun _ ho => nomatch ho
  rcases width with _ | _ | width
  · exact hnothing
  · exact free_cons.mpr ⟨hcell hleft, hnothing⟩
  · exact free_append.mpr ⟨free_append.mpr ⟨free_cons.mpr ⟨hcell hleft, hnothing⟩,
      free_replicate (hcell hmiddle) width⟩, free_cons.mpr ⟨hcell hright, hnothing⟩⟩

theorem bare_borderSides (pen : Pen) (row : Row) :
    Row.bare (borderSides pen row) = borderSides {} row.bare := by
  rcases row with _ | ⟨first, _ | ⟨second, rest⟩⟩
  · rfl
  · rfl
  · have hmiddle : Row.bare ((second :: rest).dropLast) = (Row.bare (second :: rest)).dropLast :=
      List.map_dropLast
    show Cell.bare _ :: Row.bare (_ ++ _) = _ :: (_ ++ _)
    rw [bare_append, hmiddle]
    rfl

theorem free_borderSides (h : row.Free) (pen : Pen) : Row.Free (borderSides pen row) := by
  have hside : Row.Free [⟨['│'], pen⟩] := free_replicate (show esc ∉ ['│'] by decide) 1
  rcases row with _ | ⟨first, _ | ⟨second, rest⟩⟩
  · exact h
  · exact hside
  · refine free_append.mpr ⟨hside, free_append.mpr ⟨?_, hside⟩⟩
    exact (free_cons.mp h).2.of_subset (List.dropLast_subset _)

theorem penless_borderSides (pen pen' : Pen) : Penless (borderSides pen) (borderSides pen') where
  bare_eq h := by rw [bare_borderSides, bare_borderSides, h]
  free h := free_borderSides h pen'

end Table
end TerminalDialogs
