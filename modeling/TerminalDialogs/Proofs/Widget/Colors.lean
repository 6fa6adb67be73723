import TerminalDialogs.Proofs.Table.Bare
import TerminalDialogs.Proofs.Widget.Protocol

/-!
# Widgets in other colours

A widget that owns the terminal and one in a dialog are made in the same way on different
palettes.  So it is enough to know that a palette is only ever used for colours: a widget in
other colours (`recolor`) does on every call what the widget does (`call_recolor`), and shows
the same characters in the same places (`alike_view`).

There is one place where colours get into something else.  The pager lays its text out ahead,
with the line numbers already painted, so its palettes have to agree on the colour of these,
the dim one.  The palettes of dialogs do: they are the standalone one but for the
background, the text and the accent.

Nothing is used of how lines and cells are drawn but that colours have no say in it and that
no escape character gets into a cell (`Screen.Penless`).
-/

namespace TerminalDialogs
namespace Widget

open Files (Tree)
open Modal Screen Styled

variable (p : Palette)

/-! ## What widgets draw alike -/

theorem bare_headerLines (title description : Text) (p p' : Palette) :
    (headerLines title description p).map Line.bare =
      (headerLines title description p').map Line.bare := by
  rw [headerLines, headerLines]
  split <;> split <;> rfl

theorem length_headerLines_eq (title description : Text) (p p' : Palette) :
    (headerLines title description p).length = (headerLines title description p').length := by
  have hlength := congrArg List.length (bare_headerLines title description p p')
  rwa [List.length_map, List.length_map] at hlength

theorem alike_renderLines {lines lines' : List Line}
    (h : lines.map Line.bare = lines'.map Line.bare) (width : Nat) (p p' : Palette) :
    Alike (renderLines lines width p) (renderLines lines' width p') :=
  alike_drawLines h (max width 1) p.base p'.base

/-! ## The one-line field -/

namespace Input

variable (w : Input)

/-- The field in other colours. -/
def recolor : Input := { w with palette := p }

theorem handleKey_recolor (k : Key) : (w.recolor p).handleKey k = (w.handleKey k).recolor p := by
  rw [handleKey, handleKey]
  split
  · rfl
  · split <;> rfl

theorem bare_fieldLine : (w.recolor p).fieldLine.bare = w.fieldLine.bare := by
  simp only [fieldLine, Line.bare_cons, apply_ite Line.bare]
  rfl

theorem alike_view : Alike (w.recolor p).view w.view := by
  have hhint {n m : Nat} (h : n = m) :
      (if n < w.height then [hintLine "enter submit • esc cancel".toList p] else []).map Line.bare =
        (if m < w.height then [hintLine "enter submit • esc cancel".toList w.palette]
          else []).map Line.bare := by
    rw [h]
    split <;> rfl
  rw [view, view]
  refine alike_renderLines ?_ _ _ _
  rw [List.map_append, List.map_append, List.map_append, List.map_append]
  refine congrArg₂ (· ++ ·) (congrArg₂ (· ++ ·) (bare_headerLines _ _ _ _) ?_) (hhint ?_)
  · rw [List.map_singleton, List.map_singleton, bare_fieldLine]
  · rw [List.length_append, List.length_append, length_headerLines_eq _ _ _ w.palette]
    rfl

end Input

/-! ## The question -/

namespace Confirm

variable (w : Confirm)

/-- The question in other colours. -/
def recolor : Confirm := { w with palette := p }

theorem handleKey_recolor (k : Key) : (w.recolor p).handleKey k = (w.handleKey k).recolor p := by
  rw [handleKey, handleKey]
  split
  · rfl
  · split <;> rfl

theorem alike_view : Alike (w.recolor p).view w.view := by
  rw [view, view]
  refine alike_renderLines ?_ _ _ _
  rw [List.map_append, List.map_append]
  exact congrArg₂ (· ++ ·) (bare_headerLines _ _ _ _) rfl

end Confirm

/-! ## The choice from a list -/

namespace Choose

variable (w : Choose)

/-- The choice in other colours. -/
def recolor : Choose := { w with palette := p }

theorem rows_recolor : (w.recolor p).rows = w.rows := by
  rw [rows, rows, header, header, length_headerLines_eq _ _ _ w.palette]
  rfl

theorem move_recolor (m : ListCursor.Motion) : (w.recolor p).move m = (w.move m).recolor p := by
  rw [move, rows_recolor]
  rfl

theorem toggleAll_recolor : (w.recolor p).toggleAll = w.toggleAll.recolor p := by
  rw [toggleAll, toggleAll, apply_ite (recolor p)]
  rfl

theorem toggleCurrent_recolor : (w.recolor p).toggleCurrent = w.toggleCurrent.recolor p := by
  rw [toggleCurrent, toggleCurrent, apply_ite (recolor p)]
  rfl

theorem handleKey_recolor (k : Key) : (w.recolor p).handleKey k = (w.handleKey k).recolor p := by
  rw [handleKey, handleKey]
  split
  · rfl
  · split
    all_goals first
      | rw [rows_recolor, move_recolor]
      | rw [move_recolor]
      | (rw [toggleAll_recolor, apply_ite (recolor p)]; rfl)
      | (rw [toggleCurrent_recolor, apply_ite (recolor p)]; rfl)
      | rfl

theorem setSize_recolor (width height : Nat) :
    (w.recolor p).setSize width height = (w.setSize width height).recolor p := by
  have hrows := rows_recolor p { w with width, height }
  rw [setSize, setSize]
  exact congrArg (fun rows =>
    recolor p { w with width, height, position := w.position.reveal rows }) hrows

theorem bare_itemLine (i : Nat) (item : Text) :
    ((w.recolor p).itemLine i item).bare = (w.itemLine i item).bare := by
  simp only [itemLine, Line.bare_append, Line.bare_cons, apply_ite Line.bare, apply_ite Span.bare]
  simp only [Line.bare_nil, Span.bare_mk]
  rfl

theorem alike_view : Alike (w.recolor p).view w.view := by
  rw [view, view]
  refine alike_renderLines ?_ _ _ _
  rw [rows_recolor]
  simp only [List.map_append, List.map_map]
  refine congrArg₂ (· ++ ·) (congrArg₂ (· ++ ·) (bare_headerLines _ _ _ _) ?_) rfl
  exact List.map_congr_left fun numbered _ => w.bare_itemLine p numbered.2 numbered.1

end Choose

/-! ## The list that is narrowed down by typing -/

namespace Filter

variable (w : Filter)

/-- The list in other colours. -/
def recolor : Filter := { w with palette := p }

theorem rows_recolor : (w.recolor p).rows = w.rows := by
  rw [rows, rows, header, header, length_headerLines_eq _ _ _ w.palette]
  rfl

theorem move_recolor (m : ListCursor.Motion) : (w.recolor p).move m = (w.move m).recolor p := by
  rw [move, rows_recolor]
  rfl

theorem moveSeen_recolor (m : ListCursor.Motion) :
    (w.recolor p).moveSeen m = (w.moveSeen m).recolor p :=
  w.move_recolor p _

theorem toggleCurrent_recolor : (w.recolor p).toggleCurrent = w.toggleCurrent.recolor p := by
  have hsame : (w.recolor p).matching[(w.recolor p).position.cursor]? =
      w.matching[w.position.cursor]? := rfl
  rw [toggleCurrent, toggleCurrent, hsame]
  cases w.matching[w.position.cursor]? with
  | none => rfl
  | some m =>
    exact moveSeen_recolor p
      { w with toggles := w.toggles.toggle m.index w.options.itemLimit } (.forward 1)

theorem edit_recolor (k : Key) : (w.recolor p).edit k = (w.edit k).recolor p := by
  rw [edit, edit, apply_ite (recolor p)]
  rfl

theorem handleKey_recolor (k : Key) : (w.recolor p).handleKey k = (w.handleKey k).recolor p := by
  rw [handleKey, handleKey]
  split
  · rfl
  · split
    all_goals first
      | rw [rows_recolor, moveSeen_recolor]
      | rw [moveSeen_recolor, edit_recolor, ← apply_ite (recolor p)]
      | rw [moveSeen_recolor]
      | (rw [toggleCurrent_recolor, edit_recolor, apply_ite (recolor p)]; rfl)
      | rw [edit_recolor]
      | rfl

theorem setSize_recolor (width height : Nat) :
    (w.recolor p).setSize width height = (w.setSize width height).recolor p :=
  move_recolor p { w with width, height } (.forward 0)

theorem make_recolor (options : Options.Filter) (p' : Palette) :
    make options p = (make options p').recolor p := by
  rw [make, make]
  dsimp only
  rw [apply_ite (recolor p)]
  rfl

theorem bare_itemLine (m : Fuzzy.Ranked) (focused : Bool) :
    ((w.recolor p).itemLine m focused).bare = (w.itemLine m focused).bare := by
  simp only [itemLine, Line.bare_append, Line.bare_cons, apply_ite Line.bare, apply_ite Span.bare]
  simp only [Line.bare, List.map_map, List.map_nil, Span.bare_mk]
  rfl

theorem bare_itemLines :
    (w.recolor p).itemLines.map Line.bare = w.itemLines.map Line.bare := by
  simp only [itemLines, rows_recolor, apply_ite (List.map Line.bare), List.map_map,
    Function.comp_def, bare_itemLine]
  rfl

theorem bare_queryLine : (w.recolor p).queryLine.bare = w.queryLine.bare := by
  simp only [queryLine, Line.bare_cons, apply_ite Line.bare]
  rfl

theorem alike_view : Alike (w.recolor p).view w.view := by
  rw [view, view]
  refine alike_renderLines ?_ _ _ _
  simp only [List.map_append, apply_ite (List.map Line.bare), List.map_reverse, List.map_cons,
    List.map_nil, bare_itemLines, bare_queryLine]
  exact congrArg₂ (· ++ ·) (congrArg₂ (· ++ ·) (bare_headerLines _ _ _ _) rfl) rfl

end Filter

/-! ## The editor -/

namespace Write

variable (w : Write)

/-- The editor in other colours. -/
def recolor : Write := { w with palette := p }

theorem rows_recolor : (w.recolor p).rows = w.rows := by
  rw [rows, rows, header, header, length_headerLines_eq _ _ _ w.palette]
  rfl

theorem reveal_recolor : (w.recolor p).reveal = w.reveal.recolor p := by
  rw [reveal, reveal, rows_recolor, apply_ite (recolor p), apply_ite (recolor p)]
  rfl

theorem handleKey_recolor (k : Key) : (w.recolor p).handleKey k = (w.handleKey k).recolor p := by
  rw [handleKey, handleKey]
  split
  · rfl
  · split
    · rfl
    · exact reveal_recolor p { w with text := w.text.handleKey k }

theorem setSize_recolor (width height : Nat) :
    (w.recolor p).setSize width height = (w.setSize width height).recolor p :=
  reveal_recolor p { w with width, height }

theorem bare_numberSpans (i : Nat) :
    Line.bare ((w.recolor p).numberSpans i) = Line.bare (w.numberSpans i) := by
  simp only [numberSpans, apply_ite Line.bare]
  rfl

theorem bare_rowLine (i : Nat) : ((w.recolor p).rowLine i).bare = (w.rowLine i).bare := by
  have hsame : (w.recolor p).text.lines[i]? = w.text.lines[i]? := rfl
  rw [rowLine, rowLine, Line.bare_append, Line.bare_append, bare_numberSpans, hsame]
  refine congrArg _ ?_
  cases w.text.lines[i]? with
  | none => rfl
  | some line =>
    simp only [apply_ite Line.bare]
    rfl

theorem bare_textLines :
    (w.recolor p).textLines.map Line.bare = w.textLines.map Line.bare := by
  simp only [textLines, rows_recolor, apply_ite (List.map Line.bare), List.map_cons, List.map_map,
    Function.comp_def, bare_rowLine, Line.bare_append, bare_numberSpans]
  rfl

theorem alike_view : Alike (w.recolor p).view w.view := by
  rw [view, view]
  refine alike_renderLines ?_ _ _ _
  simp only [List.map_append, bare_textLines]
  exact congrArg₂ (· ++ ·) (congrArg₂ (· ++ ·) (bare_headerLines _ _ _ _) rfl) rfl

end Write

/-! ## The spinner -/

namespace Spin

variable (w : Spin)

/-- The spinner in other colours. -/
def recolor : Spin := { w with palette := p }

theorem handleKey_recolor (k : Key) : (w.recolor p).handleKey k = (w.handleKey k).recolor p := by
  rw [handleKey, handleKey, apply_ite (recolor p)]
  rfl

theorem alike_view : Alike (w.recolor p).view w.view := by
  rw [view, view]
  refine alike_renderLines ?_ _ _ _
  rfl

end Spin

/-! ## The row picker -/

namespace Table

open TerminalDialogs.Table

variable (w : Table)

/-- The table in other colours. -/
def recolor : Table := { w with palette := p }

theorem rows_recolor : (w.recolor p).rows = w.rows := by
  rw [rows, rows, header, header, length_headerLines_eq _ _ _ w.palette]
  rfl

theorem move_recolor (m : ListCursor.Motion) : (w.recolor p).move m = (w.move m).recolor p := by
  rw [move, rows_recolor]
  rfl

theorem handleKey_recolor (k : Key) : (w.recolor p).handleKey k = (w.handleKey k).recolor p := by
  rw [handleKey, handleKey]
  split
  · rfl
  · split
    all_goals first
      | rw [rows_recolor, move_recolor]
      | rw [move_recolor]
      | rfl

theorem setSize_recolor (width height : Nat) :
    (w.recolor p).setSize width height = (w.setSize width height).recolor p :=
  move_recolor p { w with width, height } (.forward 0)

theorem bare_bodyRows : (w.recolor p).bodyRows.map Row.bare = w.bodyRows.map Row.bare := by
  have hframe : (w.recolor p).frame = w.frame := rfl
  have hshown : (w.recolor p).shownRows = w.shownRows := by
    rw [shownRows, rows_recolor]
    rfl
  let pen := ({} : Pen).merge p.base
  let pen' := ({} : Pen).merge w.palette.base
  have hblank := Penless.id.bare_blanks w.columns pen pen'
  have hhead := (penless_drawHead w.frame (boldStyle p.accent) (boldStyle w.palette.accent)
    (w.options.columns.map Options.Column.title)).bare_blanks w.columns pen pen'
  have hrow (numbered : List Text × Nat) := (penless_drawRow w.frame (Style.fg p.text)
    (Style.fg w.palette.text) (boldStyle p.highlight) (boldStyle w.palette.highlight)
    (numbered.2 == w.position.cursor) numbered.1).bare_blanks w.columns pen pen'
  rw [bodyRows, bodyRows, hframe, hshown]
  split
  · rw [List.map_cons, List.map_cons, List.map_replicate, List.map_replicate, List.length_map,
      List.length_map]
    exact congrArg (fun row => row :: List.replicate _ row) hblank
  · rw [List.isEmpty_map, List.isEmpty_map, List.map_cons, List.map_cons]
    refine List.cons_eq_cons.mpr ⟨hhead, ?_⟩
    split
    · exact congrArg ([·]) hblank
    · rw [List.map_map, List.map_map]
      exact List.map_congr_left fun numbered _ => hrow numbered

theorem bare_tableRows : (w.recolor p).tableRows.map Row.bare = w.tableRows.map Row.bare := by
  have hsides (pen : Pen) (rows : List Row) :
      (rows.map (borderSides pen)).map Row.bare =
        (rows.map Row.bare).map (borderSides {}) := by
    rw [List.map_map, List.map_map]
    exact List.map_congr_left fun row _ => bare_borderSides pen row
  simp only [tableRows, apply_ite (List.map Row.bare), List.map_append, List.map_cons,
    List.map_nil, hsides, bare_borderRow, bare_bodyRows]
  rfl

theorem free_of_mem_bodyRows : ∀ row ∈ w.bodyRows, row.Free := by
  have hblank (pen : Pen) : Row.Free (List.replicate w.columns { pen }) := free_blanks _ pen
  intro row hrow
  rw [bodyRows] at hrow
  split at hrow
  · rcases List.mem_cons.mp hrow with rfl | hrow
    · exact hblank _
    · rw [List.eq_of_mem_replicate hrow]
      exact hblank _
  · rcases List.mem_cons.mp hrow with rfl | hrow
    · exact (penless_drawHead _ {} _ _).free (hblank _)
    · split at hrow
      · rw [List.mem_singleton.mp hrow]
        exact hblank _
      · obtain ⟨numbered, -, rfl⟩ := List.mem_map.mp hrow
        exact (penless_drawRow _ {} _ {} _ _ _).free (hblank _)

theorem free_of_mem_tableRows : ∀ row ∈ w.tableRows, row.Free := by
  intro row hrow
  rw [tableRows] at hrow
  split at hrow
  · rw [List.mem_append, List.mem_append, List.mem_singleton, List.mem_singleton] at hrow
    rcases hrow with (rfl | hrow) | rfl
    · exact free_borderRow (by decide) (by decide) (by decide) _ _
    · obtain ⟨inside, hinside, rfl⟩ := List.mem_map.mp hrow
      exact (penless_borderSides {} _).free (w.free_of_mem_bodyRows inside hinside)
    · exact free_borderRow (by decide) (by decide) (by decide) _ _
  · exact w.free_of_mem_bodyRows row hrow

theorem alike_view : Alike (w.recolor p).view w.view := by
  rw [view, view]
  refine alike_paintRows ?_ ?_
  · rw [List.map_append, List.map_append, List.map_append, List.map_append, bare_tableRows]
    refine congrArg₂ (· ++ ·) (congrArg₂ (· ++ ·) ?_ rfl) ?_
    · exact bare_drawLines (bare_headerLines _ _ _ _) _ _ _
    · refine bare_drawLines ?_ _ _ _
      rfl
  · rw [List.forall_mem_append, List.forall_mem_append]
    exact ⟨⟨fun _ => free_of_mem_drawLines, w.free_of_mem_tableRows⟩,
      fun _ => free_of_mem_drawLines⟩

end Table

/-! ## The file picker -/

namespace File

variable (tree : Tree) (w : File)

/-- The picker in other colours. -/
def recolor : File := { w with palette := p }

theorem bare_header : (w.recolor p).header.map Line.bare = w.header.map Line.bare := by
  rw [header, header, List.map_append, List.map_append]
  exact congrArg₂ (· ++ ·) (bare_headerLines _ _ _ _) rfl

theorem rows_recolor : (w.recolor p).rows = w.rows := by
  have hlength := congrArg List.length (bare_header p w)
  rw [List.length_map, List.length_map] at hlength
  rw [rows, rows, hlength]
  rfl

theorem move_recolor (m : ListCursor.Motion) : (w.recolor p).move m = (w.move m).recolor p := by
  rw [move, rows_recolor]
  rfl

theorem openDirectory_recolor (directory : Text) :
    openDirectory tree (w.recolor p) directory = (openDirectory tree w directory).recolor p := by
  have hsame : tree.list (w.recolor p).options.showHidden directory =
      tree.list w.options.showHidden directory := rfl
  rw [openDirectory, openDirectory, hsame]
  cases tree.list w.options.showHidden directory with
  | ok entries => rfl
  | error e => rfl

theorem current?_recolor : (w.recolor p).current? = w.current? := rfl

theorem descend_recolor : (w.recolor p).descend tree = (w.descend tree).recolor p := by
  rw [descend, descend, current?_recolor]
  cases w.current? with
  | none => rfl
  | some e =>
    dsimp only
    rw [apply_ite (recolor p), ← openDirectory_recolor]
    rfl

theorem ascend_recolor : (w.recolor p).ascend tree = (w.ascend tree).recolor p := by
  have hsame : (w.recolor p).directory = w.directory := rfl
  rw [ascend, ascend, hsame]
  cases Path.parent? w.directory with
  | none => rfl
  | some parent =>
    dsimp only
    rw [openDirectory_recolor]
    cases Path.name? w.directory with
    | none => rfl
    | some name =>
      have hfound : ((openDirectory tree w parent).recolor p).entries =
          (openDirectory tree w parent).entries := rfl
      dsimp only
      rw [hfound]
      cases (openDirectory tree w parent).entries.findIdx? fun e => e.name == name with
      | none => rfl
      | some i => exact move_recolor p _ _

theorem choose_recolor : (w.recolor p).choose tree = (w.choose tree).recolor p := by
  rw [choose, choose, current?_recolor]
  cases w.current? with
  | none => rfl
  | some e =>
    dsimp only
    rw [descend_recolor]
    simp only [apply_ite (recolor p)]
    rfl

theorem handleKey_recolor (k : Key) :
    (w.recolor p).handleKey tree k = (w.handleKey tree k).recolor p := by
  rw [handleKey, handleKey]
  split
  · rfl
  · split
    all_goals first
      | rw [rows_recolor, move_recolor]
      | rw [move_recolor]
      | rw [descend_recolor]
      | rw [ascend_recolor]
      | rw [choose_recolor]
      | rfl

theorem setSize_recolor (width height : Nat) :
    (w.recolor p).setSize width height = (w.setSize width height).recolor p :=
  move_recolor p { w with width, height } (.forward 0)

theorem bare_entryLine (e : Files.Listed) (focused : Bool) :
    ((w.recolor p).entryLine e focused).bare = (w.entryLine e focused).bare := by
  simp only [entryLine, Line.bare_append, Line.bare_cons, apply_ite Line.bare]
  rfl

theorem bare_notice : (w.recolor p).notice.map Line.bare = w.notice.map Line.bare := by
  have hsame : (w.recolor p).problem = w.problem := rfl
  rw [notice, notice, hsame]
  cases w.problem with
  | some e => rfl
  | none =>
    simp only [apply_ite (List.map Line.bare)]
    rfl

theorem alike_view : Alike (w.recolor p).view w.view := by
  rw [view, view]
  refine alike_renderLines ?_ _ _ _
  simp only [List.map_append, bare_header, bare_notice, rows_recolor, List.map_map,
    Function.comp_def, bare_entryLine]
  rfl

end File

/-! ## The pager -/

namespace Pager

variable (w : Pager)

/-- The pager in other colours. -/
def recolor : Pager := { w with palette := p }

variable {p w}

theorem contentRows_recolor (h : p.dim = w.palette.dim) :
    (w.recolor p).contentRows = w.contentRows := by
  have hgutter : (w.recolor p).gutterText = w.gutterText := by
    funext digits line piece
    have hdim : (w.recolor p).palette.dim = w.palette.dim := h
    rw [gutterText, gutterText, hdim]
  have hrows : (w.recolor p).lineRows = w.lineRows := by
    funext digits width line index
    rw [lineRows, lineRows, hgutter]
    rfl
  rw [contentRows, contentRows, hrows]
  rfl

theorem layOut_recolor (h : p.dim = w.palette.dim) :
    (w.recolor p).layOut = w.layOut.recolor p := by
  rw [layOut, layOut, contentRows_recolor h]
  rfl

theorem setSize_recolor (h : p.dim = w.palette.dim) (width height : Nat) :
    (w.recolor p).setSize width height = (w.setSize width height).recolor p :=
  layOut_recolor (w := { w with width, height }) h

variable (p w)

theorem handleKey_recolor (k : Key) : (w.recolor p).handleKey k = (w.handleKey k).recolor p := by
  rw [handleKey, handleKey]
  split
  · rfl
  · split <;> rfl

/-- The lines of the text come with their own styles, which are the same in any colours; each of
them ends in a reset. -/
theorem alike_view : Alike (w.recolor p).view w.view := by
  have htitle : List.Forall₂ Alike
      (if w.options.title.isEmpty then []
        else [renderLines [[⟨w.options.title, boldStyle p.accent⟩]] w.width p])
      (if w.options.title.isEmpty then []
        else
          [renderLines [[⟨w.options.title, boldStyle w.palette.accent⟩]] w.width w.palette]) := by
    split
    · exact List.Forall₂.nil
    · refine List.Forall₂.cons (alike_renderLines ?_ _ _ _) List.Forall₂.nil
      rfl
  have htext : List.Forall₂ Alike (w.viewport.visible.map (fit w.width))
      (w.viewport.visible.map (fit w.width)) := by
    refine List.forall₂_same.mpr fun line hline => ?_
    obtain ⟨raw, -, rfl⟩ := List.mem_map.mp hline
    exact Alike.of_reset (reset_isSuffix_fit w.width raw)
  have hhint : Alike (renderLines [hintLine w.hint p] w.width p)
      (renderLines [hintLine w.hint w.palette] w.width w.palette) := by
    refine alike_renderLines ?_ _ _ _
    rfl
  exact Alike.unrows (List.rel_append (List.rel_append htitle htext)
    (List.Forall₂.cons hhint List.Forall₂.nil))

end Pager

/-! ## Widgets of any kind -/

/-- The colours of a widget. -/
def palette : Widget → Palette
  | .input w => w.palette
  | .confirm w => w.palette
  | .choose w => w.palette
  | .filter w => w.palette
  | .file w => w.palette
  | .write w => w.palette
  | .spin w => w.palette
  | .pager w => w.palette
  | .table w => w.palette

/-- A widget in other colours. -/
def recolor (p : Palette) : Widget → Widget
  | .input w => .input (w.recolor p)
  | .confirm w => .confirm (w.recolor p)
  | .choose w => .choose (w.recolor p)
  | .filter w => .filter (w.recolor p)
  | .file w => .file (w.recolor p)
  | .write w => .write (w.recolor p)
  | .spin w => .spin (w.recolor p)
  | .pager w => .pager (w.recolor p)
  | .table w => .table (w.recolor p)

variable (w : Widget)

@[simp] theorem palette_recolor : (w.recolor p).palette = p := by
  cases w <;> rfl

@[simp] theorem recolor_palette : w.recolor w.palette = w := by
  cases w <;> rfl

@[simp] theorem phase_recolor : (w.recolor p).phase = w.phase := by
  cases w <;> rfl

@[simp] theorem value_recolor : (w.recolor p).value = w.value := by
  cases w <;> rfl

@[simp] theorem isDone_recolor : (w.recolor p).isDone = w.isDone :=
  congrArg Phase.isDone (w.phase_recolor p)

@[simp] theorem isCancelled_recolor : (w.recolor p).isCancelled = w.isCancelled :=
  congrArg Phase.isCancelled (w.phase_recolor p)

@[simp] theorem result_recolor : (w.recolor p).result = w.result := by
  rw [result, result, isCancelled_recolor, value_recolor]

theorem init_recolor : (w.recolor p).init = w.init := by
  cases w <;> rfl

theorem handleKey_recolor (tree : Tree) (k : Key) :
    (w.recolor p).handleKey tree k = (w.handleKey tree k).recolor p := by
  cases w
  case input w => exact congrArg Widget.input (w.handleKey_recolor p k)
  case confirm w => exact congrArg Widget.confirm (w.handleKey_recolor p k)
  case choose w => exact congrArg Widget.choose (w.handleKey_recolor p k)
  case filter w => exact congrArg Widget.filter (w.handleKey_recolor p k)
  case file w => exact congrArg Widget.file (w.handleKey_recolor p tree k)
  case write w => exact congrArg Widget.write (w.handleKey_recolor p k)
  case spin w => exact congrArg Widget.spin (w.handleKey_recolor p k)
  case pager w => exact congrArg Widget.pager (w.handleKey_recolor p k)
  case table w => exact congrArg Widget.table (w.handleKey_recolor p k)

theorem tick_recolor : (w.recolor p).tick = (w.tick.1.recolor p, w.tick.2) := by
  cases w <;> rfl

theorem finish_recolor (output : Output) :
    (w.recolor p).finish output = (w.finish output).recolor p := by
  cases w <;> rfl

/-- A message does the same in any colours. -/
theorem update_recolor (tree : Tree) (m : Message) :
    (w.recolor p).update tree m = ((w.update tree m).1.recolor p, (w.update tree m).2) := by
  by_cases hdone : w.isDone = true
  · rw [update_of_done hdone, update_of_done ((w.isDone_recolor p).trans hdone)]
  · have hopen : ¬ (w.recolor p).isDone = true := by rwa [isDone_recolor]
    rw [update_of_open hdone, update_of_open hopen]
    rcases m with k | _ | output
    · simp only [handleKey_recolor]
      split <;> rfl
    · exact w.tick_recolor p
    · simp only [finish_recolor]

variable {p w}

theorem setSize_recolor (h : p.dim = w.palette.dim) (width height : Nat) :
    (w.recolor p).setSize width height = (w.setSize width height).recolor p := by
  cases w
  case choose w => exact congrArg Widget.choose (w.setSize_recolor p width height)
  case filter w => exact congrArg Widget.filter (w.setSize_recolor p width height)
  case file w => exact congrArg Widget.file (w.setSize_recolor p width height)
  case write w => exact congrArg Widget.write (w.setSize_recolor p width height)
  case pager w => exact congrArg Widget.pager (Pager.setSize_recolor h width height)
  case table w => exact congrArg Widget.table (w.setSize_recolor p width height)
  all_goals rfl

/-- **A call does the same in any colours.** -/
theorem call_recolor (h : p.dim = w.palette.dim) (c : Call) :
    (w.recolor p).call c = (w.call c).recolor p ∧ (w.recolor p).request c = w.request c := by
  rcases c with _ | ⟨tree, m⟩ | ⟨width, height⟩
  · exact ⟨rfl, w.init_recolor p⟩
  · rw [call, request, update_recolor]
    exact ⟨rfl, rfl⟩
  · exact ⟨setSize_recolor h width height, rfl⟩

/-- No call changes the colours: in its own colours a widget is itself, before a call and
after it. -/
theorem palette_call (w : Widget) (c : Call) : (w.call c).palette = w.palette := by
  have hown := (call_recolor (w := w) rfl c).1
  rw [recolor_palette] at hown
  rw [hown, palette_recolor]

theorem after_recolor (h : p.dim = w.palette.dim) (calls : List Call) :
    (w.recolor p).after calls = (w.after calls).recolor p := by
  induction calls generalizing w with
  | nil => rfl
  | cons c calls ih =>
    rw [after_cons, after_cons, (call_recolor h c).1]
    exact ih (h.trans (congrArg Palette.dim (palette_call w c).symm))

variable (p w)

theorem alike_render : Alike (w.recolor p).render w.render := by
  cases w
  case input w => exact w.alike_view p
  case confirm w => exact w.alike_view p
  case choose w => exact w.alike_view p
  case filter w => exact w.alike_view p
  case file w => exact w.alike_view p
  case write w => exact w.alike_view p
  case spin w => exact w.alike_view p
  case pager w => exact w.alike_view p
  case table w => exact w.alike_view p

theorem strip_view_recolor : strip (w.recolor p).view = strip w.view := by
  rw [view, view, isDone_recolor]
  split
  · rfl
  · exact (w.alike_render p).strip_eq

/-! ## Widgets that are made -/

theorem recolored_of_bind {σ : Type} {options : Except Error σ} {build build' : σ → Widget}
    (hbuild : ∀ o, build o = (build' o).recolor p) :
    (options >>= fun o => pure (build o)) =
      (options >>= fun o => pure (build' o)).map (recolor p) := by
  rcases options with e | o
  · rfl
  · exact congrArg Except.ok (hbuild o)

theorem Choose.make_recolor (options : Options.Choose) (p' : Palette) :
    make options p = (make options p').recolor p := by
  rw [make, make]
  dsimp only
  split <;> rfl

theorem File.make_recolor (tree : Tree) (options : Options.File) (p' : Palette) :
    make tree options p = (make tree options p').recolor p :=
  openDirectory_recolor p tree { options := allowSomething options, palette := p' } _

theorem Pager.make_recolor {p' : Palette} (h : p.dim = p'.dim) (options : Options.Pager) :
    make options p = (make options p').recolor p :=
  layOut_recolor (w := { options, palette := p' }) h

/-- **What is made is the same on any palette**, with its complaints. -/
theorem make_recolor {p p' : Palette} (h : p.dim = p'.dim) (tree : Tree) (kind : Kind)
    (options : Json) : make tree kind options p = (make tree kind options p').map (recolor p) := by
  cases kind
  case input => exact recolored_of_bind p fun _ => rfl
  case confirm => exact recolored_of_bind p fun _ => rfl
  case choose => exact recolored_of_bind p fun o => congrArg _ (Choose.make_recolor p o p')
  case filter => exact recolored_of_bind p fun o => congrArg _ (Filter.make_recolor p o p')
  case file => exact recolored_of_bind p fun o => congrArg _ (File.make_recolor p tree o p')
  case write => exact recolored_of_bind p fun _ => rfl
  case spin => exact recolored_of_bind p fun _ => rfl
  case pager => exact recolored_of_bind p fun o => congrArg _ (Pager.make_recolor p h o)
  case table => exact recolored_of_bind p fun _ => rfl

/-- A widget that was made on a palette has it: it is what the palette would make of it. -/
theorem palette_of_make {p : Palette} {tree : Tree} {kind : Kind} {options : Json} {w : Widget}
    (h : make tree kind options p = .ok w) : w.palette = p := by
  have hown : make tree kind options p = (make tree kind options p).map (recolor p) :=
    make_recolor rfl tree kind options
  rw [h] at hown
  rw [Except.ok.inj hown]
  exact palette_recolor p w

/-- Two widgets that differ in nothing but colours to whoever uses them. -/
structure Same (w w' : Widget) : Prop where
  isDone_eq : w.isDone = w'.isDone
  isCancelled_eq : w.isCancelled = w'.isCancelled
  result_eq : w.result = w'.result
  /-- They ask for the same on every call. -/
  request_eq : ∀ c, w.request c = w'.request c
  /-- They show the same characters in the same places. -/
  strip_view_eq : strip w.view = strip w'.view

theorem same_recolor {p : Palette} {w : Widget} (h : p.dim = w.palette.dim) :
    Same (w.recolor p) w where
  isDone_eq := w.isDone_recolor p
  isCancelled_eq := w.isCancelled_recolor p
  result_eq := w.result_recolor p
  request_eq c := (call_recolor h c).2
  strip_view_eq := w.strip_view_recolor p

theorem palette_after (w : Widget) (calls : List Call) : (w.after calls).palette = w.palette :=
  after_invariant (P := fun w' => w'.palette = w.palette)
    (fun w' c h => (palette_call w' c).trans h) rfl calls

/-- **A widget in a dialog and one that owns the terminal behave alike.**  From the same options
both can be made or neither, with the same complaint; and once the second has been given the
size of the first, nothing that is done with both makes a difference between them.  Any drawing
in which colours have no say (`Screen.Penless`) would do. -/
theorem inDialog_like_standalone (tree : Tree) (kind : Kind) (options : Json) (width height : Nat)
    (theme : Theme) :
    (∀ e, inDialog tree kind options width height theme = .error e ↔
      standalone tree kind options = .error e) ∧
    ∀ dialog alone, inDialog tree kind options width height theme = .ok dialog →
      standalone tree kind options = .ok alone → ∀ calls,
        Same (dialog.after calls) ((alone.setSize width height).after calls) := by
  have hdim : theme.palette.dim = Palette.standalone.dim := rfl
  have hmake := make_recolor hdim tree kind options
  rw [inDialog, standalone, hmake]
  cases hstandalone : make tree kind options Palette.standalone with
  | error e => exact ⟨fun _ => Iff.rfl, fun _ _ => nofun⟩
  | ok made =>
    refine ⟨fun _ => ⟨nofun, nofun⟩, fun dialog alone hdialog halone calls => ?_⟩
    obtain rfl : made = alone := Except.ok.inj halone
    obtain rfl : (made.recolor theme.palette).setSize width height = dialog :=
      Except.ok.inj hdialog
    have hmade : theme.palette.dim = made.palette.dim := by
      rw [palette_of_make hstandalone]
      exact hdim
    have hsized : theme.palette.dim = (made.setSize width height).palette.dim :=
      hmade.trans (congrArg Palette.dim (palette_call made (.resize width height)).symm)
    rw [setSize_recolor hmade, after_recolor hsized]
    refine same_recolor (hsized.trans ?_)
    rw [palette_after]

/-- Two numbered lines of which the second breaks off inside of a colour are shown alike on red
and on the terminal's own background, also when they are scrolled in a narrower window. -/
theorem inDialog_like_standalone_pager :
    let options := Json.object
      [("content".toList, .string "one\ntwo\x1b[3".toList),
        ("show_line_numbers".toList, .bool true)]
    let calls : List Call := [.init, .resize 9 2, .message {} (.key { code := .down })]
    let theme : Theme := ⟨⟨128, 0, 0⟩, ⟨0, 0, 0⟩, ⟨255, 255, 0⟩⟩
    ∃ dialog alone, inDialog {} .pager options 30 4 theme = .ok dialog ∧
      standalone {} .pager options = .ok alone ∧ dialog.palette ≠ alone.palette ∧
      Same (dialog.after calls) ((alone.setSize 30 4).after calls) := by
  intro options calls theme
  obtain ⟨dialog, alone, hdialog, halone, hcolors⟩ : ∃ dialog alone,
      inDialog {} .pager options 30 4 theme = .ok dialog ∧
        standalone {} .pager options = .ok alone ∧ dialog.palette ≠ alone.palette :=
    ⟨_, _, rfl, rfl, by decide⟩
  exact ⟨dialog, alone, hdialog, halone, hcolors,
    (inDialog_like_standalone {} .pager options 30 4 theme).2 dialog alone hdialog halone calls⟩

end Widget
end TerminalDialogs
