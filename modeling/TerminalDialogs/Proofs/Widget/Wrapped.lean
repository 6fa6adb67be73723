import TerminalDialogs.Proofs.Modal.Composite
import TerminalDialogs.Proofs.Styled.Wrap
import TerminalDialogs.Proofs.Widget.Fits.Pager

/-!
# What a pager shows of broken lines

Where long lines are broken, the rows of a pager are made of the pieces of the lines, each behind a
gutter.  A gutter ends in the start style, so each row shows its piece as the piece would be shown
by itself (`Pager.cells_front_append`), and behind the gutter the rows of a line spell the line
(`Pager.Spread`).  The gutters of a text are all of the same width: no number has more digits than
that of the last line (`Pager.strip_front`).

The viewport cuts the joined rows apart again.  Without carriage returns this gives back the rows
that were joined (`Pager.LaidOut.lines_eq_contentRows`), whatever keys have moved the window since.
-/

namespace TerminalDialogs

open Styled

universe u

variable {Q : Type u} (S : Styling Q)

/-- What is painted ends in the start style. -/
theorem Screen.styleAfter_paint {s : Text} (h : esc ∉ s) (style : Screen.Style) :
    S.styleAfter S.start (Screen.paint s style) = S.start := by
  rcases Screen.paint_eq s style with hpaint | ⟨parameters, hparameters, hpaint⟩
  · rw [hpaint, S.styleAfter_of_visible _ h]
  · have hwhole := (whole_controlSequence hparameters).append (whole_of_visible h)
    rw [hpaint, S.styleAfter_append _ hwhole, S.styleAfter_reset]

theorem Text.length_ofNat_le {m n : Nat} (h : m ≤ n) :
    (Text.ofNat m).length ≤ (Text.ofNat n).length := by
  have hn : n < 10 ^ (Text.ofNat n).length :=
    (Nat.length_toDigits_le_iff (by decide) Nat.length_toDigits_pos).mp (Nat.le_refl _)
  exact (Nat.length_toDigits_le_iff (by decide) Nat.length_toDigits_pos).mpr
    (Nat.lt_of_le_of_lt h hn)

/-- Without a carriage return nothing of a line is overwritten. -/
theorem Viewport.overwritten_eq {line : Text} (h : '\r' ∉ line) : overwritten line = line := by
  have hlast : line.getLast? ≠ some '\r' := fun hlast => h (List.mem_of_getLast? hlast)
  have hall : line.reverse.takeWhile (· != '\r') = line.reverse :=
    List.takeWhile_eq_self_iff.mpr fun c hc => by
      simpa using ne_of_mem_of_not_mem (List.mem_reverse.mp hc) h
  rw [overwritten, Text.dropReturn, if_neg hlast, hall, List.reverse_reverse]

namespace Widget
namespace Pager

open Screen

variable {w : Pager} {o : Options.Pager} {line row : Text} {index : Nat}

/-! ## Gutters -/

/-- What is in front of the piece of a line, the pieces counted from zero. -/
def front (w : Pager) (index piece : Nat) : Text :=
  if w.options.showLineNumbers then w.gutterText w.numberWidth index piece else []

/-- What a gutter shows: a number, or room for one, and a rule. -/
def beside (w : Pager) (number? : Option Nat) : Text :=
  if w.options.showLineNumbers then
    Text.padLeft w.numberWidth (number?.elim [] Text.ofNat) ++ " │ ".toList
  else []

theorem whole_front (w : Pager) (index piece : Nat) : Whole (w.front index piece) := by
  rw [front]
  split
  · exact (w.gutterText_spec _ _ _).1
  · exact whole_nil

theorem styleAfter_front (w : Pager) (index piece : Nat) :
    S.styleAfter S.start (w.front index piece) = S.start := by
  rw [front]
  split
  · exact styleAfter_paint S (notMem_gutter (by decide) (by decide) (by decide) _ _ _) _
  · rfl

/-- Only the first piece of a line is numbered. -/
theorem strip_front (w : Pager) (index piece : Nat) :
    strip (w.front index piece) = w.beside (if piece = 0 then some (index + 1) else none) := by
  have hesc := notMem_gutter (c := esc) (by decide) (by decide) (by decide) w.numberWidth index
    piece
  rw [front, beside]
  split
  · rw [gutterText, strip_paint (whole_of_visible hesc), strip_of_visible hesc]
    split
    · rfl
    · rfl
  · rfl

/-- A gutter has the width that is set aside for it. -/
theorem length_beside {number? : Option Nat}
    (h : ∀ n ∈ number?, n ≤ (Text.lines w.options.content).length) :
    (w.beside number?).length = w.gutter := by
  have hnumber : (number?.elim [] Text.ofNat).length ≤ w.numberWidth := by
    rcases number? with _ | n
    · exact Nat.zero_le _
    · exact Text.length_ofNat_le (Nat.le_trans (h n rfl) (Nat.le_max_left _ _))
  rw [beside, gutter]
  split
  · simp only [Text.padLeft, List.length_append, Text.length_blanks, String.length_toList]
    have hrule : " │ ".length = 3 := by decide
    omega
  · rfl

theorem width_front (h : index < (Text.lines w.options.content).length) (piece : Nat) :
    Styled.width (w.front index piece) = w.gutter := by
  rw [Styled.width, strip_front]
  refine length_beside fun n hn => ?_
  split at hn
  · rw [← Option.some.inj hn]
    exact h
  · exact absurd hn (Option.some_ne_none n).symm

/-- Behind a gutter a piece is shown as it would be by itself. -/
theorem cells_front_append (h : index < (Text.lines w.options.content).length) (piece : Nat)
    (s : Text) : (S.cells (w.front index piece ++ s)).drop w.gutter = S.cells s := by
  have hlength : (S.cellsFrom S.start (w.front index piece)).length = w.gutter := by
    rw [S.length_cellsFrom, width_front h]
  rw [← S.cellsFrom_start, S.cellsFrom_append _ (w.whole_front index piece), styleAfter_front,
    ← hlength, List.drop_left, S.cellsFrom_start]

/-! ## The rows of a line -/

/-- Rows that show a line of the text, given by its index: as many as the line has pieces, none
wider than the pager; what stands behind the gutter spells the line, and only the first row is
numbered. -/
structure Spread (w : Pager) (line : Text) (index : Nat) (rows : List Text) : Prop where
  count : rows.length = pieceCount (w.width - w.gutter) line
  fits : ∀ row ∈ rows, Styled.width row ≤ w.width
  cells : rows.flatMap (fun row => (S.cells row).drop w.gutter) = S.cells line
  numbered : ∀ k row, rows[k]? = some row →
    (strip row).take w.gutter = w.beside (if k = 0 then some (index + 1) else none)

theorem lineRows_eq (w : Pager) (width : Nat) (line : Text) (index : Nat) :
    w.lineRows w.numberWidth width line index =
      (if w.options.softWrap then wrap width line else [line]).zipIdx.map
        fun piece => w.front index piece.2 ++ piece.1 := by
  rw [lineRows]
  split
  · next hnumbers => simp only [front, hnumbers, if_true]
  · next hnumbers => simp only [front, hnumbers, Bool.false_eq_true, if_false, List.nil_append,
      List.zipIdx_map_fst]

theorem spread_lineRows (hwrap : w.options.softWrap = true) (hwide : w.gutter < w.width)
    (hindex : index < (Text.lines w.options.content).length) :
    w.Spread S line index (w.lineRows w.numberWidth (w.width - w.gutter) line index) := by
  obtain ⟨hcount, -, hfits, hcells⟩ :=
    broken_wrap S (show 1 ≤ w.width - w.gutter by omega) line
  rw [lineRows_eq, hwrap, if_pos rfl]
  refine ⟨?_, fun row hrow => ?_, ?_, fun k row hrow => ?_⟩
  · rw [List.length_map, List.length_zipIdx, hcount]
  · obtain ⟨piece, hpiece, rfl⟩ := List.mem_map.mp hrow
    have hwidth := hfits piece.1 (List.fst_mem_of_mem_zipIdx hpiece)
    rw [width_append (w.whole_front _ _), width_front hindex]
    omega
  · simp only [List.flatMap_map, cells_front_append S hindex]
    rw [← hcells, ← List.flatMap_map, List.zipIdx_map_fst]
  · rw [List.getElem?_map, List.getElem?_zipIdx, Option.map_map] at hrow
    obtain ⟨piece, -, rfl⟩ := Option.map_eq_some_iff.mp hrow
    have hlength : (strip (w.front index (0 + k))).length = w.gutter := width_front hindex (0 + k)
    simp only [Function.comp_apply]
    rw [strip_append (w.whole_front _ _), ← hlength, List.take_left, strip_front, Nat.zero_add]

/-! ## The rows of the text -/

/-- The rows of each line. -/
def blocks (w : Pager) : List (List Text) :=
  (Text.lines w.options.content).zipIdx.map fun line =>
    w.lineRows w.numberWidth (w.width - w.gutter) line.1 line.2

theorem contentRows_eq (w : Pager) : w.contentRows = w.blocks.flatten :=
  List.flatMap_def

/-- A pager with some options, laid out for its size. -/
structure LaidOut (o : Options.Pager) (w : Pager) : Prop where
  options_eq : w.options = o
  lines_eq : w.viewport.lines = (Text.rows (Text.unrows w.contentRows)).map Viewport.overwritten

theorem LaidOut.handleKey (h : w.LaidOut o) (k : Key) : (w.handleKey k).LaidOut o := by
  fun_cases Pager.handleKey w k
  all_goals exact ⟨h.options_eq, h.lines_eq⟩

/-- Without carriage returns the rows that were joined are the rows that are shown. -/
theorem LaidOut.lines_eq_contentRows (h : w.LaidOut o) (hreturn : '\r' ∉ o.content)
    (hne : w.contentRows ≠ []) : w.viewport.lines = w.contentRows := by
  obtain rfl := h.options_eq
  rw [h.lines_eq, Text.rows_unrows hne fun row hrow => notMem_of_mem_contentRows hrow]
  refine (List.map_congr_left fun row hrow => ?_).trans (List.map_id _)
  obtain ⟨gutter, piece, rfl, ⟨-, hgutter, -⟩, line, hline, hpiece⟩ := contentRows_spec hrow
  refine Viewport.overwritten_eq fun hmem => ?_
  rcases List.mem_append.mp hmem with hmem | hmem
  · exact hgutter hmem
  · exact hreturn (Text.subset_of_mem_lines hline (hpiece hmem))

theorem LaidOut.call {widget : Widget} (h : ∃ w, widget = .pager w ∧ w.LaidOut o) (c : Call) :
    ∃ w, widget.call c = .pager w ∧ w.LaidOut o := by
  obtain ⟨w, rfl, h⟩ := h
  rcases c with _ | ⟨tree, m⟩ | ⟨width, height⟩
  · exact ⟨w, rfl, h⟩
  · rw [Widget.call]
    fun_cases Widget.update tree m (.pager w)
    · exact ⟨w, rfl, h⟩
    · exact ⟨_, rfl, h.handleKey _⟩
    all_goals exact ⟨w, rfl, h⟩
  · exact ⟨_, rfl, h.options_eq, rfl⟩

/-- A pager is laid out for its size at all times. -/
theorem laidOut_after (o : Options.Pager) (p : Modal.Palette) (calls : List Call) :
    ∃ w, (Widget.pager (.make o p)).after calls = .pager w ∧ w.LaidOut o :=
  after_invariant (P := fun widget => ∃ w, widget = .pager w ∧ w.LaidOut o)
    (fun _ c h => LaidOut.call h c) ⟨_, rfl, rfl, rfl⟩ calls

/-- The rows of a pager, line by line. -/
theorem LaidOut.spread (h : w.LaidOut o) (hwrap : o.softWrap = true) (hreturn : '\r' ∉ o.content)
    (hwide : w.gutter < w.width) :
    List.Forall₂ (fun line rows => w.Spread S line.1 line.2 rows) (Text.lines o.content).zipIdx
        w.blocks ∧
      w.viewport.lines = if Text.lines o.content = [] then [[]] else w.blocks.flatten := by
  have hlines := h.lines_eq_contentRows hreturn
  have hempty := h.lines_eq
  obtain rfl := h.options_eq
  have hspread : ∀ line ∈ (Text.lines w.options.content).zipIdx, w.Spread S line.1 line.2
      (w.lineRows w.numberWidth (w.width - w.gutter) line.1 line.2) := fun line hline =>
    spread_lineRows S hwrap hwide (List.snd_lt_of_mem_zipIdx hline)
  rw [contentRows_eq] at hlines hempty
  refine ⟨?_, ?_⟩
  · rwa [blocks, List.forall₂_map_right_iff, List.forall₂_same]
  split
  · next hnone =>
    have hblocks : w.blocks = [] := by rw [blocks, hnone]; rfl
    rw [hempty, hblocks]
    rfl
  · next hsome =>
    -- Every line has a row.
    refine hlines fun hnone => hsome ?_
    rw [← List.zipIdx_eq_nil_iff, List.eq_nil_iff_forall_not_mem]
    intro line hline
    have hcount := (hspread line hline).count
    rw [List.flatten_eq_nil_iff.mp hnone _ (List.mem_map_of_mem hline)] at hcount
    exact Nat.ne_of_gt (Nat.le_max_left 1 _) hcount.symm

end Pager

/-- **Soft wrapping loses nothing**, neither text nor style.  A line is broken into as many pieces
as it needs, all but the last of them full, and the pieces show what the line shows.  In a pager,
whatever is done to it, the rows of the lines follow each other, and behind the gutter the rows of
each line show the line. -/
theorem soft_wrap_loses_nothing (S : Styling Q) :
    (∀ width line, 1 ≤ width → Broken S width line (wrap width line)) ∧
      ∀ (o : Options.Pager) (p : Modal.Palette) (calls : List Call), o.softWrap = true →
        '\r' ∉ o.content →
        ∃ w, (Widget.pager (.make o p)).after calls = .pager w ∧ w.options = o ∧
          (w.gutter < w.width → ∃ blocks,
            List.Forall₂ (fun line rows => w.Spread S line.1 line.2 rows)
              (Text.lines o.content).zipIdx blocks ∧
            w.viewport.lines = if Text.lines o.content = [] then [[]] else blocks.flatten) := by
  refine ⟨fun width line hwidth => broken_wrap S hwidth line, fun o p calls hwrap hreturn => ?_⟩
  obtain ⟨w, hw, hlaid⟩ := Pager.laidOut_after o p calls
  exact ⟨w, hw, hlaid.options_eq, fun hwide => ⟨w.blocks, hlaid.spread S hwrap hreturn hwide⟩⟩

/-- A red line that takes two rows and a line behind it, in a pager whose window a key has moved. -/
theorem soft_wrap_loses_nothing_red :
    let red := "\x1b[31m".toList
    let o : Options.Pager :=
      { content := red ++ "abcde\nf".toList, softWrap := true, showLineNumbers := true }
    let calls : List Call := [.resize 7 3, .message {} (.key { code := .down })]
    (wrap 3 (red ++ "abcde".toList)).flatMap Modal.latest.cells =
        "abcde".toList.map (·, some red) ∧
      ∃ w, (Widget.pager (.make o .standalone)).after calls = .pager w ∧ w.gutter = 4 ∧
        w.viewport.lines.map strip = ["1 │ abc".toList, "  │ de".toList, "2 │ f".toList] ∧
        ∃ blocks, List.Forall₂ (fun line rows => w.Spread Modal.latest line.1 line.2 rows)
            (Text.lines o.content).zipIdx blocks ∧ w.viewport.lines = blocks.flatten := by
  intro red o calls
  obtain ⟨hbroken, hpager⟩ := soft_wrap_loses_nothing Modal.latest
  refine ⟨(hbroken 3 (red ++ "abcde".toList) (by decide)).cells.trans (by decide), ?_⟩
  obtain ⟨w, hw, -, hspread⟩ := hpager o .standalone calls rfl (by decide)
  have hgutter : w.gutter = 4 ∧ w.width = 7 ∧
      w.viewport.lines.map strip = ["1 │ abc".toList, "  │ de".toList, "2 │ f".toList] := by
    obtain rfl := Widget.pager.inj hw
    decide +kernel
  obtain ⟨blocks, hblocks, hlines⟩ := hspread (by omega)
  exact ⟨w, hw, hgutter.1, hgutter.2.2, blocks, hblocks, hlines⟩

end Widget
end TerminalDialogs
