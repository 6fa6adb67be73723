import TerminalDialogs.Screen.Style
import TerminalDialogs.Styled.Token

/-!
# Cells as styled text

A screen is a list of rows and a row a list of cells.  A row is written cell by
cell; where the pen changes, a reset and the sequence of the new pen are
written first, and every row ends with a reset.  So no row depends on what was
written before it.
-/

namespace TerminalDialogs
namespace Screen

/-- A place on the screen: what is shown there, and how. -/
structure Cell where
  symbol : Text := [' ']
  pen : Pen := {}
  deriving DecidableEq, Repr

/-- A row of cells. -/
abbrev Row := List Cell

/-- Parameters that select a colour; the default colour needs none. -/
def Color.parameters (isBackground : Bool) (c : Color) : Option Text :=
  let base := if isBackground then 10 else 0
  match c with
  | .default => none
  | .named hue bright => some (Text.ofNat ((if bright then 90 else 30) + hue.index + base))
  | .indexed n => some (Text.ofNat (38 + base) ++ ";5;".toList ++ Text.ofNat n.toNat)
  | .rgb c =>
      some (Text.ofNat (38 + base) ++ ";2;".toList ++ Text.ofNat c.red.toNat ++ [';'] ++
        Text.ofNat c.green.toNat ++ [';'] ++ Text.ofNat c.blue.toNat)

/-- Parameters that select a pen from the default one. -/
def Pen.parameters (pen : Pen) : List Text :=
  pen.modifiers.list.map (fun m => Text.ofNat m.code) ++
    (pen.foreground.parameters false).toList ++ (pen.background.parameters true).toList

/-- The sequence that selects a pen from the default one; nothing for the
default pen itself. -/
def Pen.sequence (pen : Pen) : Text :=
  if pen.parameters.isEmpty then []
  else [Styled.esc, '['] ++ Text.join [';'] pen.parameters ++ ['m']

/-- What is written between two cells. -/
def changePen (current next : Pen) : Text :=
  if next = current then [] else Styled.reset ++ next.sequence

/-- The cells of a row, written with a pen already selected. -/
def paintCells : Pen → Row → Text
  | _, [] => Styled.reset
  | current, cell :: row => changePen current cell.pen ++ cell.symbol ++ paintCells cell.pen row

/-- One row of the screen as a line of text. -/
def paintRow (row : Row) : Text := paintCells {} row

/-- Rows of the screen as text. -/
def paintRows (rows : List Row) : Text := Text.unrows (rows.map paintRow)

/-- A text in a style, followed by a reset if there is something to reset. -/
def paint (s : Text) (style : Style) : Text :=
  let sequence := style.pen.sequence
  if sequence.isEmpty then s else sequence ++ s ++ Styled.reset

/-- A row of blanks. -/
def blankRow (width : Nat) : Row := List.replicate width {}

/-- Rows of blanks. -/
def blankRows (width height : Nat) : List Row := List.replicate height (blankRow width)

/-- Replaces what a cell shows and merges a style into its pen; a place outside
the rows is left alone. -/
def setCell (x y : Nat) (symbol : Text) (style : Style) (rows : List Row) : List Row :=
  rows.modify y fun row =>
    row.modify x fun cell => { symbol := symbol, pen := cell.pen.merge style }

/-- The bytes that put a frame on the terminal: each line in its row, the rest
of the row cleared, and then everything below. -/
def writeFrame (frame : Text) : Text :=
  let line (numbered : Text × Nat) : Text :=
    [Styled.esc, '['] ++ Text.ofNat (numbered.2 + 1) ++ ";1H".toList ++ numbered.1 ++
      [Styled.esc, '[', 'K']
  ((Text.rows frame).zipIdx.flatMap line) ++ [Styled.esc, '[', 'J']

end Screen
end TerminalDialogs
