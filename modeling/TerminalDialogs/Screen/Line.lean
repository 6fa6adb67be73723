import TerminalDialogs.Screen.Paint
import TerminalDialogs.Text.Width

/-!
# Drawing lines of text

A line is a list of spans, each a text in a style.  Every span is cut into
clusters by itself.  Each cluster takes one cell, and a cluster of two columns
keeps a second cell as it was.  Clusters without a width are left out, and so
are clusters too wide for any place on the screen; the line ends before the
first cluster that no longer fits.

Little of this matters to those who draw lines: a row stays as wide as it was,
with one character in each cell (`Fills`), and colours have no say in what is
shown (`Penless`).
-/

namespace TerminalDialogs
namespace Screen

/-- A text in one style. -/
structure Span where
  text : Text
  style : Style := {}
  deriving DecidableEq, Repr

/-- A line of text. -/
abbrev Line := List Span

/-- The clusters of a span that can be shown, with their style. -/
def Span.clusters (s : Span) : List (Text × Style) :=
  (Text.shownClusters s.text).map fun cluster => (cluster, s.style)

/-- Draws clusters over the cells from some place on; `whole` is the width of
the screen. -/
def drawClusters (whole : Nat) : List (Text × Style) → Row → Row
  | [], row => row
  | cluster :: clusters, row =>
      let columns := Text.columns cluster.1
      if columns = 0 ∨ whole < columns then drawClusters whole clusters row
      else if row.length < columns then row
      else
        match row with
        | [] => []
        | cell :: rest =>
            { symbol := cluster.1, pen := cell.pen.merge cluster.2 } ::
              (rest.take (columns - 1) ++ drawClusters whole clusters (rest.drop (columns - 1)))

/-- Draws a line over a row. -/
def drawLine (line : Line) (row : Row) : Row :=
  drawClusters row.length (line.flatMap Span.clusters) row

/-- Rows of the given width with one line each, on a common style. -/
def drawLines (width : Nat) (base : Style) (lines : List Line) : List Row :=
  let blank : Row := List.replicate width { pen := ({} : Pen).merge base }
  lines.map fun line => drawLine line blank

end Screen
end TerminalDialogs
