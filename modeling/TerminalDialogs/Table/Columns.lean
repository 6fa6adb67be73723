import TerminalDialogs.Options.Kinds
import TerminalDialogs.Styled.Token
import TerminalDialogs.Table.Share
import TerminalDialogs.Text.Blank

/-!
# The columns of a table

A column is as wide as its head says, or else as wide as its widest cell.

Columns stand side by side with one column of the screen between two of them.
If they do not fit, they share the room (`share`), and their widths need not be
whole numbers.  The edges of the columns are computed exactly and rounded last, a
half upwards, so no column is off by more than half a place.
-/

namespace TerminalDialogs
namespace Table

/-- The greatest width of a column. -/
def widthLimit : Nat := 65535

/-- The width of the column at some position. -/
def naturalWidth (columns : List Options.Column) (rows : List (List Text)) (i : Nat) : Nat :=
  let fixed := (columns[i]?.map Options.Column.width).getD 0
  if 0 < fixed then fixed
  else
    let title := (columns[i]?.map fun c => Styled.width c.title).getD 0
    let cells := rows.filterMap fun row => row[i]?
    min ((cells.map Styled.width).foldl max title) widthLimit

/-- The widths of all columns. -/
def naturalWidths (columns : List Options.Column) (rows : List (List Text)) : List Nat :=
  (List.range ((rows.map List.length).foldl max columns.length)).map
    (naturalWidth columns rows)

/-- Where a column starts, and its width. -/
structure Extent where
  start : Nat
  width : Nat
  deriving DecidableEq, Repr

/-- A quotient to the nearest whole number, a half upwards. -/
def roundHalfUp (numerator denominator : Nat) : Nat :=
  (2 * numerator + denominator) / (2 * denominator)

/-- Columns one after the other from `position` on, all in units of one part of
`unit`. -/
def layOutFrom (unit : Nat) : (position : Nat) → List Nat → List Extent
  | _, [] => []
  | position, w :: widths =>
      let start := roundHalfUp position unit
      ⟨start, roundHalfUp (position + w) unit - start⟩ ::
        layOutFrom unit (position + w + unit) widths

/-- The extents of columns of the given widths in some room. -/
def layOut (widths : List Nat) (available : Nat) : List Extent :=
  let gaps := widths.length - 1
  if widths.foldr (· + ·) gaps ≤ available then layOutFrom 1 0 widths
  else if available ≤ gaps then widths.map fun _ => ⟨0, 0⟩
  else
    let shared := share widths.length (available - gaps) (widths.map (⟨0, ·⟩))
    layOutFrom shared.1 0 shared.2

/-- The pieces of a text between the occurrences of a separator of one or more
characters. -/
def splitText (separator : Text) (s : Text) : List Text :=
  let rec go (seen : Text) (rest : Text) (skip : Nat) : List Text :=
    match rest, skip with
    | [], _ => [seen.reverse]
    | _ :: rest, skip + 1 => go seen rest skip
    | c :: rest, 0 =>
        if separator.isPrefixOf (c :: rest) then
          seen.reverse :: go [] rest (separator.length - 1)
        else go (c :: seen) rest 0
  go [] s 0

/-- The cells of a line of delimited text. -/
def splitCells (separator line : Text) : List Text :=
  (splitText separator line).map Text.trim

/-- The options with columns and rows read from delimited text. -/
def loadDelimited (o : Options.Table) : Options.Table :=
  let separator := if o.separator.isEmpty then [','] else o.separator
  let lines := Text.lines (Text.trim o.csv)
  let titles : List Text → List Options.Column := fun cells => cells.map fun c => ⟨c, 0⟩
  let (columns, body) :=
    match o.hasHeader, lines with
    | true, first :: body => (titles (splitCells separator first), body)
    | _, lines => (o.columns, lines)
  let rows := body.map (splitCells separator)
  { o with
    rows
    columns :=
      if columns.isEmpty then ((rows.head?.getD []).map fun _ => ⟨[], 0⟩) else columns }

/-- The options with rows from delimited text if there are no others. -/
def load (o : Options.Table) : Options.Table :=
  if o.rows.isEmpty && !o.csv.isEmpty then loadDelimited o else o

end Table
end TerminalDialogs
