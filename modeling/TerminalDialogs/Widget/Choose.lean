import TerminalDialogs.Options.Kinds
import TerminalDialogs.Widget.Draw
import TerminalDialogs.Widget.ListCursor
import TerminalDialogs.Widget.Protocol
import TerminalDialogs.Widget.Toggles

/-!
# The choice from a list

Enter submits the item under the cursor.  If several items may be chosen, items
are switched on and off, and Enter submits those that are on, in the order of
switching or, if asked for, in the order of the list; with none on it is still
the item under the cursor.
-/

namespace TerminalDialogs
namespace Widget

open Modal Screen

/-- A choice from a list. -/
structure Choose where
  options : Options.Choose
  position : ListCursor := {}
  toggles : Toggles := {}
  palette : Palette
  phase : Phase := .open
  width : Nat := 80
  height : Nat := 12
  deriving DecidableEq, Repr

namespace Choose

/-- The number of items. -/
def count (w : Choose) : Nat := w.options.items.length

/-- The choice at first: the cursor is on the preselected item, if there is
one, and that item is on if several may be chosen. -/
def make (options : Options.Choose) (palette : Palette) : Choose :=
  let start : Choose := { options, palette }
  let index? := if options.selected.isEmpty then none else options.items.idxOf? options.selected
  match index? with
  | none => start
  | some i =>
      { start with
        position := { cursor := i }
        toggles := if options.isMulti then start.toggles.toggle i options.itemLimit
          else start.toggles }

/-- The lines above the list. -/
def header (w : Choose) : List Line :=
  headerLines w.options.title w.options.description w.palette

/-- The rows of the list. -/
def rows (w : Choose) : Nat := listRows w.height (w.header.length + 1) w.options.height

/-- Moves the cursor. -/
def move (w : Choose) (m : ListCursor.Motion) : Choose :=
  { w with position := w.position.move w.count w.rows m }

/-- Switches everything on, or everything off if all is on. -/
def toggleAll (w : Choose) : Choose :=
  if w.toggles.count = w.count then { w with toggles := {} }
  else { w with toggles := (List.range w.count).foldl (Toggles.turnOn · 0 ·) w.toggles }

/-- Switches the item under the cursor. -/
def toggleCurrent (w : Choose) : Choose :=
  if w.position.cursor < w.count then
    { w with toggles := w.toggles.toggle w.position.cursor w.options.itemLimit }
  else w

/-- What a key does. -/
def handleKey (w : Choose) (k : Key) : Choose :=
  if k.isCancel then { w with phase := .cancelled }
  else
    match k.code with
    | .up | .char 'k' => w.move (.back 1)
    | .down | .char 'j' => w.move (.forward 1)
    | .pageUp => w.move (.back w.rows)
    | .pageDown => w.move (.forward w.rows)
    | .home | .char 'g' => w.move .first
    | .endKey | .char 'G' => w.move .last
    | .char 'a' => if k.ctrl && w.options.noLimit then w.toggleAll else w
    | .char ' ' | .tab | .char 'x' => if w.options.isMulti then w.toggleCurrent else w
    | .enter => { w with phase := .submitted }
    | _ => w

/-- The positions that are returned when some are on. -/
def chosen (w : Choose) : List Nat :=
  if w.options.ordered then w.toggles.sorted else w.toggles.order

/-- The items that are returned. -/
def chosenItems (w : Choose) : List Text :=
  if w.toggles.isEmpty then w.options.items[w.position.cursor]?.toList
  else w.chosen.filterMap fun i => w.options.items[i]?

/-- What the choice yields. -/
def value (w : Choose) : Value := .list w.chosenItems

/-- Changes the room for the choice. -/
def setSize (w : Choose) (width height : Nat) : Choose :=
  let w := { w with width, height }
  { w with position := w.position.reveal w.rows }

/-- What stands in front of the item under the cursor. -/
def mark (w : Choose) : Text :=
  if w.options.cursor.isEmpty then "> ".toList else w.options.cursor

/-- The line of an item. -/
def itemLine (w : Choose) (i : Nat) (item : Text) : Line :=
  let p := w.palette
  let focused := i == w.position.cursor
  let front : Span :=
    if focused then ⟨w.mark, Style.fg p.accent⟩ else ⟨Text.blanks w.mark.length, {}⟩
  let box : List Span :=
    if w.options.isMulti then
      if w.toggles.contains i then [⟨"[x] ".toList, Style.fg p.highlight⟩]
      else [⟨"[ ] ".toList, Style.fg p.dim⟩]
    else []
  let style := if focused then boldStyle p.highlight else Style.fg p.text
  [front] ++ box ++ [⟨item, style⟩]

/-- The hint below the list. -/
def hint (w : Choose) : Text :=
  if w.options.isMulti then
    let count := Text.ofNat w.toggles.count
    let limit := w.options.itemLimit
    "space toggle • enter submit • ".toList ++ count ++
      (if limit = 0 then [] else '/' :: Text.ofNat limit) ++ " selected".toList
  else "↑/↓ move • enter select • esc cancel".toList

/-- The choice as text. -/
def view (w : Choose) : Text :=
  let shown := (w.options.items.zipIdx.drop w.position.offset).take w.rows
  let items := shown.map fun numbered => w.itemLine numbered.2 numbered.1
  renderLines (w.header ++ items ++ [hintLine w.hint w.palette]) w.width w.palette

end Choose

end Widget
end TerminalDialogs
