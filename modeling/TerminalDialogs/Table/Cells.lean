import TerminalDialogs.Screen.Line
import TerminalDialogs.Table.Columns

/-!
# Drawing tables

A table is drawn row by row: the head, and below it the rows shown, each with a
mark in front of the one that is selected.  Cells are drawn more sparingly than
lines of text: only the first line of a cell is shown, a cluster without a
width joins the cell in front of it, and the cell behind a wide cluster loses
its style.

Here too it is enough to know that rows stay drawn (`Screen.Fills`), if no
cluster is without a width, and that colours have no say (`Screen.Penless`).
-/

namespace TerminalDialogs
namespace Table

open Screen

/-- Changes the pen of some cells of a row. -/
def restyle (start width : Nat) (style : Style) (row : Row) : Row :=
  let restyled := ((row.drop start).take width).map fun cell =>
    { cell with pen := cell.pen.merge style }
  row.take start ++ restyled ++ row.drop (start + width)

/-- Puts a cluster behind what the last cell of a row shows. -/
def joinLast (cluster : Text) (row : Row) : Row :=
  match row.getLast? with
  | none => row
  | some cell => row.dropLast ++ [{ cell with symbol := cell.symbol ++ cluster }]

/-- Draws clusters over the cells `rest`, behind the cells `passed`. -/
def drawCell (isFirst : Bool) : List Text → (passed rest : Row) → Row
  | [], passed, rest => passed ++ rest
  | cluster :: clusters, passed, rest =>
      let columns := Text.columns cluster
      if rest.length < columns then passed ++ rest
      else
        match rest with
        | [] => drawCell false clusters (joinLast cluster passed) []
        | cell :: behind =>
            let joins := !isFirst && passed.isEmpty
            if columns = 0 then
              if isFirst then
                drawCell false clusters passed ({ cell with symbol := cluster } :: behind)
              else if passed.isEmpty then
                drawCell false clusters passed
                  ({ cell with symbol := cell.symbol ++ cluster } :: behind)
              else drawCell false clusters (joinLast cluster passed) rest
            else
              let shown := { cell with symbol := if joins then cell.symbol ++ cluster else cluster }
              drawCell false clusters (passed ++ shown :: List.replicate (columns - 1) {})
                (behind.drop (columns - 1))

/-- Draws a text over some cells of a row. -/
def drawText (start width : Nat) (s : Text) (row : Row) : Row :=
  let line := (Text.lines s).headD []
  if Text.columns line = 0 then row
  else
    row.take start ++ drawCell true (Text.shownClusters line) [] ((row.drop start).take width) ++
      row.drop (start + width)

/-- Draws cells in their columns, all of them moved to the right by `left`. -/
def drawCells (left : Nat) (extents : List Extent) (cells : List Text) (row : Row) : Row :=
  (extents.zip cells).foldl (fun row c => drawText (left + c.1.start) c.1.width c.2 row) row

/-- What is drawn in front of the selected row. -/
def selectionMark : Text := ['>', ' ']

/-- What the rows of a table have in common: where the inside of the table
starts, how wide it is, how many columns are kept for the mark, and the
columns. -/
structure Frame where
  left : Nat
  inner : Nat
  markWidth : Nat
  extents : List Extent

/-- Where the cells start. -/
def Frame.cellsLeft (f : Frame) : Nat := f.left + min f.markWidth f.inner

/-- Draws the head of the table. -/
def drawHead (f : Frame) (style : Style) (titles : List Text) (row : Row) : Row :=
  drawCells f.cellsLeft f.extents titles (restyle f.left f.inner style row)

/-- Draws a row of the table. -/
def drawRow (f : Frame) (style highlight : Style) (isSelected : Bool) (cells : List Text)
    (row : Row) : Row :=
  let row := restyle f.left f.inner style row
  let row :=
    if isSelected && 0 < f.markWidth then
      drawText f.left f.markWidth selectionMark (restyle f.left f.markWidth style row)
    else row
  let row := drawCells f.cellsLeft f.extents cells row
  if isSelected then restyle f.left f.inner highlight row else row

/-- A row of a border. -/
def borderRow (left middle right : Char) (width : Nat) (pen : Pen) : Row :=
  let cell (c : Char) : Cell := ⟨[c], pen⟩
  match width with
  | 0 => []
  | 1 => [cell left]
  | width + 2 => [cell left] ++ List.replicate width (cell middle) ++ [cell right]

/-- Puts the sides of a border over the ends of a row. -/
def borderSides (pen : Pen) (row : Row) : Row :=
  match row with
  | [] => []
  | [_] => [⟨['│'], pen⟩]
  | _ :: rest => ⟨['│'], pen⟩ :: (rest.dropLast ++ [⟨['│'], pen⟩])

end Table
end TerminalDialogs
