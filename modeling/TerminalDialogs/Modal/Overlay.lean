import TerminalDialogs.Modal.Palette
import TerminalDialogs.Modal.Size
import TerminalDialogs.Screen.Paint
import TerminalDialogs.Styled.Cut

/-!
# Dialogs over other text

A dialog is drawn in three steps: its contents are framed (`frame`), the
background is kept through resets (`Styled.restore`), and the block is put in
the middle of the text behind it (`composite`).

In a row that the block meets, the text behind keeps its style on both sides:
to the left because it is cut there, to the right because the cut repeats the
style sequences of what is hidden.  The row is reset between the parts, so none
of them colours another.
-/

namespace TerminalDialogs
namespace Modal

open Styled

/-- The greatest width among lines. -/
def widest (lines : List Text) : Nat := (lines.map width).foldl max 0

/-- Puts border, padding and background around contents. -/
def frame (content : Text) (theme : Theme) : Text :=
  let border : Screen.Style := Screen.Style.fg theme.borderColor
  let background := theme.backgroundSequence
  let lines := Text.rows content
  let inner := widest lines
  let span := inner + 2 * paddingColumns
  let edge := Screen.paint ['│'] border
  let blank := edge ++ background ++ Text.blanks span ++ reset ++ edge
  let padding := Text.blanks paddingColumns
  let bar (left right : Char) : Text :=
    Screen.paint ([left] ++ List.replicate span '─' ++ [right]) border
  let framed (line : Text) : Text :=
    edge ++ background ++ padding ++ line ++ background ++ Text.blanks (inner - width line) ++
      padding ++ reset ++ edge
  Text.unrows ([bar '╭' '╮'] ++ List.replicate paddingRows blank ++ lines.map framed ++
    List.replicate paddingRows blank ++ [bar '╰' '╯'])

/-- The part of a row to the left of the block. -/
def leftOf (base : Text) (x : Nat) : Text :=
  if x = 0 then []
  else if x ≤ width base then take x base
  else base ++ reset ++ Text.blanks (x - width base)

/-- A line of the block in the room that the screen leaves for it. -/
def inside (line : Text) (shown : Nat) : Text :=
  if shown < width line then take shown line else line ++ Text.blanks (shown - width line)

/-- The part of a row from column `right` on, up to the edge of the screen. -/
def rightOf (base : Text) (right screenWidth : Nat) : Text :=
  if right < screenWidth then
    let room := screenWidth - right
    if right < width base then
      let rest := skip right base
      let used := min (width rest) room
      take room rest ++ (if used < room then reset ++ Text.blanks (room - used) else [])
    else Text.blanks room
  else []

/-- A row with a line of the block over it. -/
def compositeRow (base line : Text) (place : Placement) (screenWidth : Nat)
    (background : Text) : Text :=
  let shown := min place.size.width (screenWidth - place.x)
  leftOf base place.x ++ reset ++ background ++ inside line shown ++ reset ++
    rightOf base (place.x + place.size.width) screenWidth ++ reset

/-- The rows of the text behind a block, at least as many as the screen has. -/
def baseRows (base : Text) (height : Nat) : List Text :=
  let rows := if base.isEmpty then [] else Text.rows base
  rows ++ List.replicate (height - rows.length) []

/-- Puts a styled block in the middle of a text. -/
def composite (base overlay : Text) (screen : Size) (background : Text) : Text :=
  let lines := Text.rows overlay
  let place := placement ⟨widest lines, lines.length⟩ screen
  let row (numbered : Text × Nat) : Text :=
    let line? := if numbered.2 < place.y then none else lines[numbered.2 - place.y]?
    match line? with
    | some line => compositeRow numbered.1 line place screen.width background
    | none => fit screen.width numbered.1
  Text.unrows ((baseRows base screen.height).zipIdx.map row)

/-- Draws contents as a dialog in the middle of a text. -/
def overlay (base content : Text) (screen : Size) (theme : Theme) : Text :=
  let background := theme.backgroundSequence
  composite base (restore background (frame content theme)) screen background

end Modal
end TerminalDialogs
