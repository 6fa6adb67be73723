import Mathlib.Data.List.Forall2
import TerminalDialogs.Proofs.Screen.Look
import TerminalDialogs.Proofs.Styled.Shown
import TerminalDialogs.Screen.Line

/-!
# Screens that differ in their colours only

Two rows that are the same when all pens are taken away (`Row.bare`) show the same text,
whatever their colours are.  For a row that is read by itself this is plain.  A row may also
come behind a text that breaks off inside of a command, and then it is swallowed up to the
end of the command, if it holds one; so it is not enough that the rows show the same, they
have to be read alike from wherever the reading may be (`Alike`).  A reset leaves only two
such places, as it does for a background (`settled_reset`): outside of sequences, and inside
of a command that the next character does not end by itself.

Rows come about by drawing.  All that is needed of it is that pens have no say in what is shown
and that no escape character gets into a cell (`Penless`).
-/

namespace TerminalDialogs

namespace Styled

/-- Where a reading can be behind a reset. -/
def Settled (place : Option Opening) : Prop := place = none ∨ place = some (.command false)

theorem settled_none : Settled none := Or.inl rfl

theorem settled_reset (place : Option Opening) : Settled (seeAll place reset).2 := by
  rcases place with _ | _ | _ | afterEsc
  · exact Or.inl rfl
  · exact Or.inl rfl
  · exact Or.inl rfl
  · cases afterEsc
    · exact Or.inr rfl
    · exact Or.inr rfl

/-- A visible character leads from one of the two places to one of them. -/
theorem Settled.seeAll {s : Text} (hs : esc ∉ s) {place : Option Opening} (h : Settled place) :
    Settled (seeAll place s).2 := by
  induction s generalizing place with
  | nil => exact h
  | cons c s ih =>
    rw [List.mem_cons, not_or] at hs
    refine ih hs.2 ?_
    rcases h with rfl | rfl
    · rw [see, if_neg fun hc => hs.1 hc.symm]
      exact settled_none
    · rw [see_some, Opening.next]
      split
      · exact settled_none
      · rw [decide_eq_false fun hc => hs.1 hc.symm]
        exact Or.inr rfl

/-- Two texts that are read alike behind a reset. -/
structure Alike (s t : Text) : Prop where
  seeAll_eq : ∀ place, Settled place → seeAll place s = seeAll place t
  settled : ∀ place, Settled place → Settled (seeAll place t).2

namespace Alike

variable {s s' t t' : Text}

theorem append (hs : Alike s t) (hs' : Alike s' t') : Alike (s ++ s') (t ++ t') where
  seeAll_eq place h := by
    rw [seeAll_append, seeAll_append, hs.seeAll_eq place h,
      hs'.seeAll_eq _ (hs.settled place h)]
  settled place h := by
    rw [seeAll_append]
    exact hs'.settled _ (hs.settled place h)

theorem of_visible (h : esc ∉ s) : Alike s s :=
  ⟨fun _ _ => rfl, fun _ hplace => hplace.seeAll h⟩

/-- Whatever ends in a reset is read like itself. -/
theorem of_reset (h : reset <:+ s) : Alike s s where
  seeAll_eq _ _ := rfl
  settled place _ := by
    obtain ⟨body, rfl⟩ := h
    rw [seeAll_append]
    exact settled_reset _

theorem strip_eq (h : Alike s t) : strip s = strip t := by
  rw [strip_eq_seeAll, strip_eq_seeAll, h.seeAll_eq none settled_none]

theorem unrows {ls ls' : List Text} (h : List.Forall₂ Alike ls ls') :
    Alike (Text.unrows ls) (Text.unrows ls') := by
  induction h with
  | nil => exact of_visible List.not_mem_nil
  | @cons l l' ls ls' hl hls ih =>
    cases hls with
    | nil => exact hl
    | cons hnext hrest =>
      rw [Text.unrows, Text.unrows, Text.join_cons_cons, Text.join_cons_cons]
      exact (hl.append (of_visible (by decide))).append ih

end Alike
end Styled

namespace Screen

open Styled

/-! ## Taking pens away -/

/-- What a cell shows, without its colours. -/
def Cell.bare (cell : Cell) : Cell := { cell with pen := {} }

/-- What a row shows, without its colours. -/
def Row.bare (row : Row) : Row := row.map Cell.bare

/-- The text of a span, without its style. -/
def Span.bare (span : Span) : Span := { span with style := {} }

/-- The texts of a line, without their styles. -/
def Line.bare (line : Line) : Line := line.map Span.bare

@[simp] theorem Span.bare_mk (text : Text) (style : Style) :
    Span.bare ⟨text, style⟩ = ⟨text, {}⟩ := rfl

@[simp] theorem Line.bare_nil : Line.bare [] = [] := rfl

@[simp] theorem Line.bare_cons (span : Span) (line : Line) :
    Line.bare (span :: line) = span.bare :: line.bare := rfl

@[simp] theorem Line.bare_append (a b : Line) : Line.bare (a ++ b) = a.bare ++ b.bare :=
  List.map_append

/-- A row whose cells hold no escape character. -/
def Row.Free (row : Row) : Prop := ∀ cell ∈ row, esc ∉ cell.symbol

/-! ## Rows as text -/

/-- A change of pen shows nothing and leads nowhere. -/
theorem seeAll_changePen (current next : Pen) {place : Option Opening} (h : Settled place) :
    seeAll place (changePen current next) = ([], place) := by
  have hsequence : seeAll place next.sequence = ([], place) := by
    rcases next.sequence_eq with hnext | ⟨parameters, hparameters, hnext⟩
    · rw [hnext]
      rfl
    · rw [hnext]
      rcases h with rfl | rfl
      · rw [seeAll_of_whole (whole_controlSequence hparameters),
          strip_controlSequence hparameters]
      · refine seeAll_command (fun e he => ?_) false
        exact ⟨ne_of_mem_of_not_mem he
            (notMem_controlSequence (by decide) (by decide) hparameters),
          ne_of_mem_of_not_mem he (notMem_controlSequence (by decide) (by decide) hparameters)⟩
  have hreset : seeAll place reset = ([], place) := by
    rcases h with rfl | rfl
    · rfl
    · rfl
  rw [changePen]
  split
  · rfl
  · rw [seeAll_append, hreset, hsequence]
    rfl

/-- **Rows that differ in colours only are read alike.** -/
theorem alike_paintCells {row row' : Row} (hbare : row.bare = row'.bare) (hfree : row'.Free)
    (current current' : Pen) : Alike (paintCells current row) (paintCells current' row') := by
  induction row generalizing row' current current' with
  | nil =>
    obtain rfl : row' = [] := List.map_eq_nil_iff.mp hbare.symm
    exact Alike.of_reset (List.suffix_refl _)
  | cons cell row ih =>
    rcases row' with _ | ⟨cell', row'⟩
    · cases hbare
    · obtain ⟨hcell, hrow⟩ := List.cons.inj hbare
      have hsymbol : cell.symbol = cell'.symbol := (Cell.mk.inj hcell).1
      have hfree' : esc ∉ cell'.symbol := hfree cell' List.mem_cons_self
      have hpen : Alike (changePen current cell.pen) (changePen current' cell'.pen) :=
        ⟨fun place h => by rw [seeAll_changePen _ _ h, seeAll_changePen _ _ h],
          fun place h => by rwa [seeAll_changePen _ _ h]⟩
      rw [paintCells, paintCells, hsymbol]
      exact (hpen.append (Alike.of_visible hfree')).append
        (ih hrow (fun other ho => hfree other (List.mem_cons_of_mem cell' ho)) _ _)

theorem alike_paintRows {rows rows' : List Row} (hbare : rows.map Row.bare = rows'.map Row.bare)
    (hfree : ∀ row ∈ rows', row.Free) : Alike (paintRows rows) (paintRows rows') := by
  refine Alike.unrows ?_
  rw [List.forall₂_map_left_iff, List.forall₂_map_right_iff]
  induction rows generalizing rows' with
  | nil =>
    obtain rfl : rows' = [] := List.map_eq_nil_iff.mp hbare.symm
    exact List.Forall₂.nil
  | cons row rows ih =>
    rcases rows' with _ | ⟨row', rows'⟩
    · cases hbare
    · obtain ⟨hrow, hrows⟩ := List.cons.inj hbare
      rw [List.forall_mem_cons] at hfree
      exact List.Forall₂.cons (alike_paintCells hrow hfree.1 {} {}) (ih hrows hfree.2)

/-! ## Drawing -/

theorem Row.length_bare (row : Row) : row.bare.length = row.length := List.length_map _

theorem Row.bare_blanks (n : Nat) (pen : Pen) :
    Row.bare (List.replicate n { pen }) = List.replicate n {} := List.map_replicate

/-- Two ways of drawing that differ in colours only: over rows that show the same they show the
same, and they put no escape character into a cell. -/
structure Penless (draw draw' : Row → Row) : Prop where
  bare_eq : ∀ {row row' : Row}, row.bare = row'.bare → (draw row).bare = (draw' row').bare
  free : ∀ {row : Row}, row.Free → (draw' row).Free

namespace Penless

variable {draw draw' after after' : Row → Row}

theorem id : Penless (fun row => row) fun row => row := ⟨fun h => h, fun h => h⟩

theorem andThen (hdraw : Penless draw draw') (hafter : Penless after after') :
    Penless (fun row => after (draw row)) fun row => after' (draw' row) :=
  ⟨fun h => hafter.bare_eq (hdraw.bare_eq h), fun h => hafter.free (hdraw.free h)⟩

theorem ite {c : Prop} [Decidable c] (hdraw : Penless draw draw') (hafter : Penless after after') :
    Penless (fun row => if c then draw row else after row) fun row =>
      if c then draw' row else after' row := by
  by_cases h : c
  · simpa only [if_pos h] using hdraw
  · simpa only [if_neg h] using hafter

/-- Drawing for which it makes no difference when the pens are taken away. -/
theorem of_bare (hbare : ∀ row, (draw row).bare = draw row.bare)
    (hfree : ∀ {row : Row}, row.Free → (draw row).Free) : Penless draw draw where
  bare_eq {row row'} h := by rw [hbare, hbare, h]
  free := hfree

/-- On blanks of two colours. -/
theorem bare_blanks (h : Penless draw draw') (n : Nat) (pen pen' : Pen) :
    (draw (List.replicate n { pen })).bare = (draw' (List.replicate n { pen := pen' })).bare :=
  h.bare_eq ((Row.bare_blanks n pen).trans (Row.bare_blanks n pen').symm)

end Penless

/-! ## Drawing lines -/

/-- Pens have no say in where clusters are drawn. -/
theorem bare_drawClusters (whole : Nat) (clusters : List (Text × Style)) (row : Row) :
    Row.bare (drawClusters whole clusters row) =
      drawClusters whole (clusters.map fun cluster => (cluster.1, {})) row.bare := by
  induction clusters generalizing row with
  | nil => rfl
  | cons cluster clusters ih =>
    rw [List.map_cons]
    unfold drawClusters
    rw [Row.length_bare]
    dsimp only
    split
    · exact ih row
    · split
      · rfl
      · rcases row with _ | ⟨cell, rest⟩
        · rfl
        · show Cell.bare _ :: Row.bare (_ ++ _) = _ :: (_ ++ _)
          rw [Row.bare, List.map_append, ← Row.bare, ← Row.bare, ih, Row.bare, Row.bare,
            List.map_take, List.map_drop]
          rfl

theorem bare_drawLine (line : Line) (row : Row) :
    Row.bare (drawLine line row) = drawLine line.bare row.bare := by
  rw [drawLine, drawLine, bare_drawClusters, Row.length_bare, List.map_flatMap, Line.bare,
    List.flatMap_map]
  congr 2
  funext span
  rw [Span.clusters, List.map_map]
  rfl

theorem esc_notMem_of_mem_shownClusters {s cluster : Text} (h : cluster ∈ Text.shownClusters s) :
    esc ∉ cluster := by
  intro hesc
  have hshown := (List.mem_filter.mp h).2
  rw [Bool.not_eq_true', List.any_eq_false] at hshown
  exact hshown esc hesc (by decide)

section Free

variable {row a b : Row}

theorem free_cons {cell : Cell} : Row.Free (cell :: row) ↔ esc ∉ cell.symbol ∧ row.Free :=
  List.forall_mem_cons

theorem free_append : Row.Free (a ++ b) ↔ a.Free ∧ b.Free := List.forall_mem_append

theorem Row.Free.of_subset (h : b.Free) (hsub : a ⊆ b) : a.Free := fun cell hcell =>
  h cell (hsub hcell)

theorem free_replicate {cell : Cell} (h : esc ∉ cell.symbol) (n : Nat) :
    Row.Free (List.replicate n cell) := fun other ho => by rwa [List.eq_of_mem_replicate ho]

theorem free_blanks (n : Nat) (pen : Pen) : Row.Free (List.replicate n { pen }) :=
  free_replicate (show esc ∉ [' '] by decide) n

theorem Row.Free.drawClusters {whole : Nat} {clusters : List (Text × Style)}
    (hclusters : ∀ cluster ∈ clusters, esc ∉ cluster.1) (h : row.Free) :
    Row.Free (drawClusters whole clusters row) := by
  induction clusters generalizing row with
  | nil => exact h
  | cons cluster clusters ih =>
    rw [List.forall_mem_cons] at hclusters
    unfold Screen.drawClusters
    dsimp only
    split
    · exact ih hclusters.2 h
    · split
      · exact h
      · rcases row with _ | ⟨cell, rest⟩
        · exact h
        · have hrest := (free_cons.mp h).2
          exact free_cons.mpr ⟨hclusters.1, free_append.mpr
            ⟨hrest.of_subset (List.take_subset _ _),
              ih hclusters.2 (hrest.of_subset (List.drop_subset _ _))⟩⟩

end Free

/-- **Lines of the same texts** differ in colours only. -/
theorem penless_drawLine {line line' : Line} (h : line.bare = line'.bare) :
    Penless (drawLine line) (drawLine line') where
  bare_eq hrow := by rw [bare_drawLine, bare_drawLine, h, hrow]
  free hrow := by
    refine hrow.drawClusters fun cluster hcluster => ?_
    obtain ⟨span, -, hspan⟩ := List.mem_flatMap.mp hcluster
    obtain ⟨text, htext, rfl⟩ := List.mem_map.mp hspan
    exact esc_notMem_of_mem_shownClusters htext

/-- What lines show is told by their texts. -/
theorem bare_drawLines {lines lines' : List Line} (h : lines.map Line.bare = lines'.map Line.bare)
    (width : Nat) (base base' : Style) :
    (drawLines width base lines).map Row.bare = (drawLines width base' lines').map Row.bare := by
  induction lines generalizing lines' with
  | nil =>
    obtain rfl : lines' = [] := List.map_eq_nil_iff.mp h.symm
    rfl
  | cons line lines ih =>
    rcases lines' with _ | ⟨line', lines'⟩
    · cases h
    · obtain ⟨hline, hlines⟩ := List.cons.inj h
      exact List.cons_eq_cons.mpr ⟨(penless_drawLine hline).bare_blanks width _ _, ih hlines⟩

theorem free_of_mem_drawLines {row : Row} {width : Nat} {base : Style} {lines : List Line}
    (h : row ∈ drawLines width base lines) : row.Free := by
  obtain ⟨line, -, rfl⟩ := List.mem_map.mp h
  have hdraw : Penless (drawLine line) (drawLine line) := penless_drawLine rfl
  exact hdraw.free (free_blanks width _)

/-- **Lines of the same texts are read alike**, in whatever styles they are drawn. -/
theorem alike_drawLines {lines lines' : List Line} (h : lines.map Line.bare = lines'.map Line.bare)
    (width : Nat) (base base' : Style) :
    Alike (paintRows (drawLines width base lines)) (paintRows (drawLines width base' lines')) :=
  alike_paintRows (bare_drawLines h width base base') fun _ => free_of_mem_drawLines

end Screen
end TerminalDialogs
