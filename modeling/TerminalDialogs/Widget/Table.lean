import TerminalDialogs.Table.Cells
import TerminalDialogs.Widget.Draw
import TerminalDialogs.Widget.ListCursor
import TerminalDialogs.Widget.Protocol

/-!
# The row picker

Enter submits the row under the cursor; Q dismisses the table like Escape.
-/

namespace TerminalDialogs
namespace Widget

open Modal Screen

/-- A row picker. -/
structure Table where
  options : Options.Table
  /-- The widths of the columns. -/
  widths : List Nat
  position : ListCursor := {}
  palette : Palette
  phase : Phase := .open
  width : Nat := 80
  height : Nat := 12
  deriving DecidableEq, Repr

namespace Table

/-- The number of rows. -/
def count (w : Table) : Nat := w.options.rows.length

/-- The table at first. -/
def make (options : Options.Table) (palette : Palette) : Table :=
  let options := TerminalDialogs.Table.load options
  { options, palette
    widths := TerminalDialogs.Table.naturalWidths options.columns options.rows
    position := { cursor := min options.selectedIndex (options.rows.length - 1) } }

/-- The row under the cursor. -/
def selection (w : Table) : Selection :=
  match w.options.rows[w.position.cursor]? with
  | some row => ⟨Int.ofNat w.position.cursor, row⟩
  | none => .nothing

/-- The lines above the table. -/
def header (w : Table) : List Line := headerLines w.options.title [] w.palette

/-- The rows of the screen that the head and the border take. -/
def chrome (w : Table) : Nat := 1 + if w.options.border then 2 else 0

/-- The rows of the screen for rows of the table. -/
def rows (w : Table) : Nat :=
  listRows w.height (w.header.length + w.chrome + 1) w.options.height

/-- Moves the cursor. -/
def move (w : Table) (m : ListCursor.Motion) : Table :=
  { w with position := w.position.move w.count w.rows m }

/-- What a key does. -/
def handleKey (w : Table) (k : Key) : Table :=
  if k.isCancel || k.code == .char 'q' then { w with phase := .cancelled }
  else
    match k.code with
    | .up | .char 'k' => w.move (.back 1)
    | .down | .char 'j' => w.move (.forward 1)
    | .pageUp | .char 'b' => w.move (.back w.rows)
    | .pageDown | .char 'f' => w.move (.forward w.rows)
    | .home | .char 'g' => w.move .first
    | .endKey | .char 'G' => w.move .last
    | .enter => { w with phase := .submitted }
    | _ => w

/-- What the table yields. -/
def value (w : Table) : Value := .row w.selection

/-- Changes the room for the table. -/
def setSize (w : Table) (width height : Nat) : Table :=
  { w with width, height }.move (.forward 0)

/-- The rows of the table that are shown, with their positions: from the offset
on, moved down as far as needed to show the selected one. -/
def shownRows (w : Table) : List (List Text × Nat) :=
  let shown := max (min (w.count - w.position.offset) w.rows) 1
  let start := min (min w.position.offset (w.count - 1)) w.position.cursor
  let start := max start (w.position.cursor + 1 - shown)
  (w.options.rows.zipIdx.drop start).take shown

/-- The screen's width. -/
def columns (w : Table) : Nat := max w.width 1

/-- What the rows have in common. -/
def frame (w : Table) : TerminalDialogs.Table.Frame :=
  let left := if w.options.border then 1 else 0
  let inner := w.columns - 2 * left
  let markWidth := if w.options.rows.isEmpty then 0 else TerminalDialogs.Table.selectionMark.length
  ⟨left, inner, markWidth, TerminalDialogs.Table.layOut w.widths (inner - markWidth)⟩

/-- The head and the rows, drawn on the base style. -/
def bodyRows (w : Table) : List Row :=
  let p := w.palette
  let f := w.frame
  let blank : Row := List.replicate w.columns { pen := ({} : Pen).merge p.base }
  let head := TerminalDialogs.Table.drawHead f (boldStyle p.accent)
    (w.options.columns.map Options.Column.title) blank
  let row (numbered : List Text × Nat) : Row :=
    TerminalDialogs.Table.drawRow f (Style.fg p.text) (boldStyle p.highlight)
      (numbered.2 == w.position.cursor) numbered.1 blank
  let body := w.shownRows.map row
  if f.inner = 0 then blank :: List.replicate (max body.length 1) blank
  else head :: (if body.isEmpty then [blank] else body)

/-- The table with its border. -/
def tableRows (w : Table) : List Row :=
  if w.options.border then
    let pen := (({} : Pen).merge w.palette.base).merge (Style.fg w.palette.dim)
    [TerminalDialogs.Table.borderRow '┌' '─' '┐' w.columns pen] ++
      w.bodyRows.map (TerminalDialogs.Table.borderSides pen) ++
      [TerminalDialogs.Table.borderRow '└' '─' '┘' w.columns pen]
  else w.bodyRows

/-- The table as text. -/
def view (w : Table) : Text :=
  let p := w.palette
  let hint := hintLine "↑/↓ move • enter select • q/esc cancel".toList p
  paintRows
    (drawLines w.columns p.base w.header ++ w.tableRows ++ drawLines w.columns p.base [hint])

end Table

end Widget
end TerminalDialogs
