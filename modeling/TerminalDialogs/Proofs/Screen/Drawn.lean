import TerminalDialogs.Proofs.Screen.Look
import TerminalDialogs.Proofs.Screen.Strip
import TerminalDialogs.Proofs.Text.Solitary
import TerminalDialogs.Screen.Line

/-!
# Rows that are drawn in full

A row is *drawn* in a width if it has as many cells and each of them shows one
character that is no control.  Such a row is written as a line of just that
width (`Drawn.strip_paintRow`), because neither an escape sequence nor a line
feed can come out of a cell.

Whatever is drawn over a row has to keep it drawn, and nothing else is needed of how
it is drawn (`Fills`).  Drawing a line of loose text does (`fills_drawLine`): every
cluster is a single character, and a cluster of two columns takes the cell of
the next column from the row as it was.  How many columns a cluster takes does not
matter there.
-/

namespace TerminalDialogs
namespace Screen

open Styled

/-- A cell that shows one character, and no control. -/
def Cell.Plain (cell : Cell) : Prop := ∃ c, Text.isControl c = false ∧ cell.symbol = [c]

theorem Cell.Plain.notMem {cell : Cell} (h : cell.Plain) {c : Char} (hc : Text.isControl c = true) :
    c ∉ cell.symbol := by
  obtain ⟨d, hd, hsymbol⟩ := h
  rw [hsymbol, List.mem_singleton]
  rintro rfl
  exact absurd hc (Bool.eq_false_iff.mp hd)

/-- A row of the given width all of whose cells show one character. -/
structure Drawn (width : Nat) (row : Row) : Prop where
  length_eq : row.length = width
  plain : ∀ cell ∈ row, cell.Plain

/-! ## Parts of rows -/

section Parts

variable {m n : Nat} {a b : Row}

theorem drawn_nil : Drawn 0 [] := ⟨rfl, fun _ h => absurd h List.not_mem_nil⟩

theorem Drawn.cons {cell : Cell} (hcell : cell.Plain) (ha : Drawn n a) :
    Drawn (n + 1) (cell :: a) where
  length_eq := by rw [List.length_cons, ha.length_eq]
  plain := List.forall_mem_cons.mpr ⟨hcell, ha.plain⟩

theorem Drawn.append (ha : Drawn m a) (hb : Drawn n b) : Drawn (m + n) (a ++ b) where
  length_eq := by rw [List.length_append, ha.length_eq, hb.length_eq]
  plain cell hcell := (List.mem_append.mp hcell).elim (ha.plain cell) (hb.plain cell)

theorem Drawn.take (ha : Drawn n a) (k : Nat) : Drawn (min k n) (a.take k) where
  length_eq := by rw [List.length_take, ha.length_eq]
  plain cell hcell := ha.plain cell (List.mem_of_mem_take hcell)

theorem Drawn.drop (ha : Drawn n a) (k : Nat) : Drawn (n - k) (a.drop k) where
  length_eq := by rw [List.length_drop, ha.length_eq]
  plain cell hcell := ha.plain cell (List.mem_of_mem_drop hcell)

theorem Drawn.tail {cell : Cell} (ha : Drawn (n + 1) (cell :: a)) : Drawn n a := ha.drop 1

theorem drawn_replicate {cell : Cell} (hcell : cell.Plain) (n : Nat) :
    Drawn n (List.replicate n cell) where
  length_eq := List.length_replicate
  plain other ho := by rwa [List.eq_of_mem_replicate ho]

/-- A blank, whatever the pen. -/
theorem Cell.plain_blank (pen : Pen) : Cell.Plain { pen } := ⟨' ', by decide, rfl⟩

end Parts

/-! ## Drawn rows as text -/

/-- A drawn row is written in as many characters as it has cells. -/
theorem Drawn.strip_paintRow {width : Nat} {row : Row} (h : Drawn width row) :
    Strip width (paintRow row) := by
  have hesc : ∀ cell ∈ row, esc ∉ cell.symbol := fun cell hcell =>
    (h.plain cell hcell).notMem (by decide)
  have hfeed : ∀ cell ∈ row, '\n' ∉ cell.symbol := fun cell hcell =>
    (h.plain cell hcell).notMem (by decide)
  have hseen : row.seen.length = row.length := by
    rw [Row.seen, List.length_flatMap, List.map_congr_left (g := fun _ => 1), List.map_const',
      List.sum_replicate_nat, Nat.mul_one]
    intro cell hcell
    obtain ⟨c, -, hsymbol⟩ := h.plain cell hcell
    rw [hsymbol]
    rfl
  refine ⟨whole_paintRow hesc, ?_, notMem_paintCells (by decide) (by decide) hfeed {}⟩
  rw [← looks.length_cellsFrom looks.start, looks.cellsFrom_start, cells_paintRow hesc, hseen,
    h.length_eq]

/-- **Drawn rows are written as lines of their width.** -/
theorem lines_paintRows {width : Nat} {rows : List Row} (hne : rows ≠ [])
    (h : ∀ row ∈ rows, Drawn width row) : Lines width rows.length (paintRows rows) := by
  have hstrips : ∀ line ∈ rows.map paintRow, Strip width line := by
    intro line hline
    obtain ⟨row, hrow, rfl⟩ := List.mem_map.mp hline
    exact (h row hrow).strip_paintRow
  have hlines := lines_unrows (by simpa using hne) hstrips
  rwa [List.length_map] at hlines

/-! ## Drawing -/

/-- Drawing that keeps rows drawn, each in its width. -/
structure Fills (draw : Row → Row) : Prop where
  drawn : ∀ {width : Nat} {row : Row}, Drawn width row → Drawn width (draw row)

namespace Fills

variable {draw after : Row → Row}

theorem id : Fills fun row => row := ⟨fun h => h⟩

theorem andThen (hdraw : Fills draw) (hafter : Fills after) : Fills fun row => after (draw row) :=
  ⟨fun h => hafter.drawn (hdraw.drawn h)⟩

theorem ite {c : Prop} [Decidable c] (hdraw : Fills draw) (hafter : Fills after) :
    Fills fun row => if c then draw row else after row := by
  refine ⟨fun h => ?_⟩
  split
  · exact hdraw.drawn h
  · exact hafter.drawn h

end Fills

/-! ## Drawing lines -/

/-- A line of loose texts. -/
def Line.Loose (line : Line) : Prop := ∀ span ∈ line, Text.Loose span.text

@[simp] theorem Line.loose_nil : Line.Loose [] := fun _ h => absurd h List.not_mem_nil

@[simp] theorem Line.loose_cons {span : Span} {line : Line} :
    Line.Loose (span :: line) ↔ Text.Loose span.text ∧ line.Loose :=
  List.forall_mem_cons

@[simp] theorem Line.loose_append {a b : Line} : Line.Loose (a ++ b) ↔ a.Loose ∧ b.Loose :=
  List.forall_mem_append

theorem Drawn.drawClusters {width whole : Nat} {clusters : List (Text × Style)}
    (hclusters : ∀ k ∈ clusters, ∃ c, Text.isControl c = false ∧ k.1 = [c]) {row : Row}
    (hrow : Drawn width row) : Drawn width (drawClusters whole clusters row) := by
  induction clusters generalizing row width with
  | nil => exact hrow
  | cons cluster clusters ih =>
    have hclusters' := fun k hk => hclusters k (List.mem_cons_of_mem cluster hk)
    unfold Screen.drawClusters
    dsimp only
    split
    · exact ih hclusters' hrow
    · split
      · exact hrow
      · next hroom =>
        rcases row with _ | ⟨cell, rest⟩
        · exact hrow
        · obtain rfl := hrow.length_eq
          have hrest : Drawn rest.length rest := hrow.tail
          have hcell : Cell.Plain ⟨cluster.1, cell.pen.merge cluster.2⟩ :=
            hclusters cluster List.mem_cons_self
          have hbehind := (hrest.take (Text.columns cluster.1 - 1)).append
            (ih hclusters' (hrest.drop (Text.columns cluster.1 - 1)))
          rw [List.length_cons] at hroom
          rw [show min (Text.columns cluster.1 - 1) rest.length +
            (rest.length - (Text.columns cluster.1 - 1)) = rest.length by omega] at hbehind
          exact hbehind.cons hcell

theorem fills_drawLine {line : Line} (hline : line.Loose) : Fills (drawLine line) := by
  refine ⟨fun h => h.drawClusters fun k hk => ?_⟩
  obtain ⟨span, hspan, hk⟩ := List.mem_flatMap.mp hk
  obtain ⟨cluster, hcluster, rfl⟩ := List.mem_map.mp hk
  obtain ⟨c, -, hc, hsingle⟩ := Text.exists_of_mem_shownClusters (hline span hspan) hcluster
  exact ⟨c, hc, hsingle⟩

theorem drawn_drawLines {width : Nat} {base : Style} {lines : List Line}
    (h : ∀ line ∈ lines, line.Loose) : ∀ row ∈ drawLines width base lines, Drawn width row := by
  intro row hrow
  obtain ⟨line, hline, rfl⟩ := List.mem_map.mp hrow
  exact (fills_drawLine (h line hline)).drawn (drawn_replicate (Cell.plain_blank _) width)

theorem length_drawLines (width : Nat) (base : Style) (lines : List Line) :
    (drawLines width base lines).length = lines.length :=
  List.length_map _

end Screen
end TerminalDialogs
