import TerminalDialogs.Fuzzy
import TerminalDialogs.Options.Kinds
import TerminalDialogs.Widget.Draw
import TerminalDialogs.Widget.LineBuffer
import TerminalDialogs.Widget.ListCursor
import TerminalDialogs.Widget.Protocol
import TerminalDialogs.Widget.Toggles

/-!
# The list that is narrowed down by typing

What is typed is a query, and the items that match it are shown.  Each change
of the query looks for the matches again and puts the cursor on the first one;
what has been switched on stays on.
-/

namespace TerminalDialogs
namespace Widget

open Modal Screen

/-- A list that is narrowed down by typing. -/
structure Filter where
  options : Options.Filter
  query : LineBuffer
  matching : List Fuzzy.Ranked := []
  position : ListCursor := {}
  toggles : Toggles := {}
  palette : Palette
  phase : Phase := .open
  width : Nat := 80
  height : Nat := 12
  deriving DecidableEq, Repr

namespace Filter

/-- Looks for the matches of the query. -/
def refresh (w : Filter) : Filter :=
  { w with
    matching := Fuzzy.rank .rounded w.options.items w.query.value w.options.fuzzy w.options.sort
    position := {} }

/-- The positions that are on at first. -/
def preselected (options : Options.Filter) : Toggles :=
  if options.isMulti then
    (options.selected.filter (· < options.items.length)).foldl
      (Toggles.turnOn · options.itemLimit ·) {}
  else {}

/-- The list at first.  One without items is submitted at once. -/
def make (options : Options.Filter) (palette : Palette) : Filter :=
  let start : Filter := { options, palette, query := LineBuffer.ofText options.value 0 }
  if options.items.isEmpty then { start with phase := .submitted }
  else refresh { start with toggles := preselected options }

/-- The number of matches. -/
def count (w : Filter) : Nat := w.matching.length

/-- The items that match. -/
def matchingItems (w : Filter) : List Text :=
  w.matching.filterMap fun m => w.options.items[m.index]?

/-- The lines above everything else. -/
def header (w : Filter) : List Line :=
  headerLines w.options.title w.options.description w.palette

/-- The rows of the list. -/
def rows (w : Filter) : Nat := listRows w.height (w.header.length + 2) w.options.height

/-- Moves the cursor. -/
def move (w : Filter) (m : ListCursor.Motion) : Filter :=
  { w with position := w.position.move w.count w.rows m }

/-- Moves the cursor as seen on the screen, where a reversed list is upside
down. -/
def moveSeen (w : Filter) (m : ListCursor.Motion) : Filter :=
  w.move (if w.options.reverse then m.opposite else m)

/-- Switches the match under the cursor and moves on. -/
def toggleCurrent (w : Filter) : Filter :=
  match w.matching[w.position.cursor]? with
  | none => w
  | some m =>
      { w with toggles := w.toggles.toggle m.index w.options.itemLimit }.moveSeen (.forward 1)

/-- What a key does to the query. -/
def edit (w : Filter) (k : Key) : Filter :=
  let query := w.query.handleKey k
  let w' := { w with query }
  if query.value = w.query.value then w' else w'.refresh

/-- What a key does. -/
def handleKey (w : Filter) (k : Key) : Filter :=
  if k.isCancel then { w with phase := .cancelled }
  else
    match k.code with
    | .up => w.moveSeen (.back 1)
    | .down => w.moveSeen (.forward 1)
    | .char 'p' | .char 'k' => if k.ctrl then w.moveSeen (.back 1) else w.edit k
    | .char 'n' | .char 'j' => if k.ctrl then w.moveSeen (.forward 1) else w.edit k
    | .pageUp => w.moveSeen (.back w.rows)
    | .pageDown => w.moveSeen (.forward w.rows)
    | .tab => if w.options.isMulti then w.toggleCurrent else w.edit k
    | .enter => { w with phase := .submitted }
    | _ => w.edit k

/-- The items that are returned. -/
def chosenItems (w : Filter) : List Text :=
  if !w.toggles.isEmpty then w.toggles.order.filterMap fun i => w.options.items[i]?
  else
    match w.matching[w.position.cursor]? with
    | some m => w.options.items[m.index]?.toList
    | none =>
        if !w.options.strict && !w.query.value.isEmpty then [w.query.value] else []

/-- What the list yields. -/
def value (w : Filter) : Value := .list w.chosenItems

/-- Changes the room for the list. -/
def setSize (w : Filter) (width height : Nat) : Filter :=
  { w with width, height }.move (.forward 0)

/-- The line of a match, the characters that were found set off. -/
def itemLine (w : Filter) (m : Fuzzy.Ranked) (focused : Bool) : Line :=
  let p := w.palette
  let front : Span := if focused then ⟨"│ ".toList, Style.fg p.accent⟩ else ⟨"  ".toList, {}⟩
  let mark : List Span :=
    if w.options.isMulti then
      if w.toggles.contains m.index then [⟨"● ".toList, Style.fg p.highlight⟩]
      else [⟨"○ ".toList, Style.fg p.dim⟩]
    else []
  let plain := if focused then boldStyle p.accent else Style.fg p.text
  let char (numbered : Char × Nat) : Span :=
    ⟨[numbered.1],
      if m.positions.contains numbered.2 then boldStyle p.highlight else plain⟩
  [front] ++ mark ++ ((w.options.items[m.index]?).getD []).zipIdx.map char

/-- What stands in front of the query. -/
def prompt (w : Filter) : Text :=
  if w.options.prompt.isEmpty then "> ".toList else w.options.prompt

/-- The line with the query. -/
def queryLine (w : Filter) : Line :=
  let p := w.palette
  let field := if 0 < w.options.width then min w.options.width w.width else w.width
  let room := field - (w.prompt.length + 1)
  let placeholder :=
    if w.options.placeholder.isEmpty then "Filter...".toList else w.options.placeholder
  let shown :=
    if w.query.value.isEmpty then [⟨placeholder.take room, Style.fg p.dim⟩]
    else (w.query.window room false).spans (Style.fg p.text)
  ⟨w.prompt, Style.fg p.accent⟩ :: shown

/-- The hint below everything else. -/
def hint (w : Filter) : Text :=
  if w.options.isMulti then
    "tab toggle • enter submit • ".toList ++ Text.ofNat w.toggles.count ++ " selected".toList
  else
    Text.ofNat w.count ++ ['/'] ++ Text.ofNat w.options.items.length ++
      " • enter select".toList

/-- The lines of the matches. -/
def itemLines (w : Filter) : List Line :=
  let shown := (w.matching.zipIdx.drop w.position.offset).take w.rows
  if shown.isEmpty then [hintLine "  No matches".toList w.palette]
  else shown.map fun numbered => w.itemLine numbered.1 (numbered.2 == w.position.cursor)

/-- The list as text. -/
def view (w : Filter) : Text :=
  let body :=
    if w.options.reverse then w.itemLines.reverse ++ [w.queryLine]
    else w.queryLine :: w.itemLines
  renderLines (w.header ++ body ++ [hintLine w.hint w.palette]) w.width w.palette

end Filter

end Widget
end TerminalDialogs
