import TerminalDialogs.Proofs.Widget.Focus

/-!
# What is drawn for the cursor

A cursor that is on screen is drawn: one of the rows of the widget is that of the item under the
cursor, or the row of the text where the cursor stands, and it is drawn as such (`focusRow?`).
With nothing to stand on, the cursor is at the start, and the keys that ask for the item under it
find none (`Vacant`).

Both hold after any calls among which there was a size (`focus_on_screen`).
-/

namespace TerminalDialogs

open Files (Tree)
open Modal (Palette)
open Screen

namespace ListCursor.Shown

variable {α : Type} {items : List α} {count rows : Nat} {c : ListCursor}

theorem inside (h : c.Shown count rows) (hne : count ≠ 0) :
    c.cursor < count ∧ c.offset ≤ c.cursor ∧ c.cursor < c.offset + rows := by
  rwa [Shown, if_neg hne] at h

theorem exists_item (h : c.Shown items.length rows) (hne : items.length ≠ 0) :
    ∃ x, items[c.cursor]? = some x :=
  ⟨_, List.getElem?_eq_getElem (h.inside hne).1⟩

theorem mem_shown (h : c.Shown items.length rows) {x : α} (hx : items[c.cursor]? = some x) :
    (x, c.cursor) ∈ (items.zipIdx.drop c.offset).take rows := by
  have hlt : c.cursor < items.length := (List.getElem?_eq_some_iff.mp hx).1
  obtain ⟨-, hoffset, hrows⟩ := h.inside (by omega)
  refine List.mem_of_getElem? (i := c.cursor - c.offset) ?_
  rw [List.getElem?_take_of_lt (by omega), List.getElem?_drop, Nat.add_sub_cancel' hoffset,
    List.getElem?_zipIdx, hx, Nat.zero_add]
  rfl

end ListCursor.Shown

namespace Widget

/-! ## Rows -/

/-- A text that is painted from rows, one of which is the given one. -/
def Shows (view : Text) (row : Row) : Prop :=
  ∃ above below, view = paintRows (above ++ row :: below)

theorem shows_paintRows {rows : List Row} {row : Row} (h : row ∈ rows) :
    Shows (paintRows rows) row := by
  obtain ⟨above, below, rfl⟩ := List.append_of_mem h
  exact ⟨above, below, rfl⟩

/-- The row of a line. -/
def lineRow (width : Nat) (p : Palette) (line : Line) : Row :=
  drawLine line (List.replicate (max width 1) { pen := ({} : Pen).merge p.base })

theorem shows_renderLines {lines : List Line} {line : Line} (h : line ∈ lines) (width : Nat)
    (p : Palette) : Shows (renderLines lines width p) (lineRow width p line) :=
  shows_paintRows (List.mem_map_of_mem h)

namespace Choose

/-- The line of the item under the cursor. -/
def focusLine? (w : Choose) : Option Line :=
  w.options.items[w.position.cursor]?.map (w.itemLine w.position.cursor)

theorem shows_focus {w : Choose} (h : w.position.Shown w.options.items.length w.rows)
    (hne : w.options.items.length ≠ 0) :
    ∃ line, w.focusLine? = some line ∧ Shows w.view (lineRow w.width w.palette line) := by
  obtain ⟨item, hitem⟩ := ListCursor.Shown.exists_item h hne
  refine ⟨w.itemLine w.position.cursor item, by rw [focusLine?, hitem]; rfl, ?_⟩
  refine shows_renderLines (List.mem_append_left _ (List.mem_append_right _ ?_)) _ _
  exact List.mem_map.mpr ⟨_, ListCursor.Shown.mem_shown h hitem, rfl⟩

end Choose

namespace Filter

/-- The line of the match under the cursor. -/
def focusLine? (w : Filter) : Option Line :=
  w.matching[w.position.cursor]?.map (w.itemLine · true)

theorem shows_focus {w : Filter} (h : w.position.Shown w.matching.length w.rows)
    (hne : w.matching.length ≠ 0) :
    ∃ line, w.focusLine? = some line ∧ Shows w.view (lineRow w.width w.palette line) := by
  obtain ⟨m, hm⟩ := ListCursor.Shown.exists_item h hne
  have hshown := ListCursor.Shown.mem_shown h hm
  have hline : w.itemLine m true ∈ w.itemLines := by
    rw [itemLines, if_neg (by rw [List.isEmpty_iff]; exact List.ne_nil_of_mem hshown)]
    exact List.mem_map.mpr ⟨_, hshown, by rw [beq_self_eq_true]⟩
  refine ⟨w.itemLine m true, by rw [focusLine?, hm]; rfl, ?_⟩
  refine shows_renderLines (List.mem_append_left _ (List.mem_append_right _ ?_)) _ _
  -- A list that is drawn from the bottom has the same lines.
  split
  · exact List.mem_append_left _ (List.mem_reverse.mpr hline)
  · exact List.mem_cons_of_mem _ hline

end Filter

namespace File

/-- The line of the entry under the cursor. -/
def focusLine? (w : File) : Option Line := w.current?.map (w.entryLine · true)

theorem shows_focus {w : File} (h : w.position.Shown w.entries.length w.rows)
    (hne : w.entries.length ≠ 0) :
    ∃ line, w.focusLine? = some line ∧ Shows w.view (lineRow w.width w.palette line) := by
  obtain ⟨e, he⟩ := ListCursor.Shown.exists_item h hne
  refine ⟨w.entryLine e true, by rw [focusLine?, current?, he]; rfl, ?_⟩
  refine shows_renderLines (List.mem_append_left _ (List.mem_append_right _ ?_)) _ _
  exact List.mem_map.mpr ⟨_, ListCursor.Shown.mem_shown h he, by rw [beq_self_eq_true]⟩

end File

namespace Write

/-- The line where the cursor stands: the first one if a placeholder stands for the text. -/
def focusLine (w : Write) : Line :=
  if w.text.isEmpty && !w.options.placeholder.isEmpty then
    w.numberSpans 0 ++ [⟨w.options.placeholder.take w.field, Style.fg w.palette.dim⟩]
  else w.rowLine w.text.row

theorem shows_focus {w : Write}
    (h : ListCursor.Shown w.text.lines.length w.rows ⟨w.text.row, w.top⟩) :
    Shows w.view (lineRow w.width w.palette w.focusLine) := by
  have hlt := row_lt w.text
  obtain ⟨-, htop, hrows⟩ := h.inside (by omega)
  dsimp only at htop hrows
  refine shows_renderLines (List.mem_append_left _ (List.mem_append_right _ ?_)) _ _
  rw [focusLine, textLines]
  split
  · exact List.mem_cons_self
  · exact List.mem_map.mpr ⟨w.text.row - w.top, List.mem_range.mpr (by omega),
      by rw [Nat.add_sub_cancel' htop]⟩

end Write

namespace Table

/-- The cells of the selected row; inside a border too narrow for any there are none. -/
def selectedCells (w : Table) (cells : List Text) : Row :=
  let blank : Row := List.replicate w.columns { pen := ({} : Pen).merge w.palette.base }
  if w.frame.inner = 0 then blank
  else TerminalDialogs.Table.drawRow w.frame (Style.fg w.palette.text)
    (boldStyle w.palette.highlight) true cells blank

/-- The row under the cursor, with the sides of the border. -/
def focusRow? (w : Table) : Option Row :=
  w.options.rows[w.position.cursor]?.map fun cells =>
    if w.options.border then
      TerminalDialogs.Table.borderSides
        ((({} : Pen).merge w.palette.base).merge (Style.fg w.palette.dim)) (w.selectedCells cells)
    else w.selectedCells cells

/-- As long as the cursor is on screen the rows shown start at the offset. -/
theorem mem_shownRows {w : Table} (h : w.position.Shown w.options.rows.length w.rows)
    {cells : List Text} (hcells : w.options.rows[w.position.cursor]? = some cells) :
    (cells, w.position.cursor) ∈ w.shownRows := by
  have hmem := ListCursor.Shown.mem_shown h hcells
  have hlt : w.position.cursor < w.options.rows.length := (List.getElem?_eq_some_iff.mp hcells).1
  obtain ⟨-, hoffset, hrows⟩ := h.inside (by omega)
  rw [shownRows]
  dsimp only [count]
  have hstart : max (min (min w.position.offset (w.options.rows.length - 1)) w.position.cursor)
      (w.position.cursor + 1 - max (min (w.options.rows.length - w.position.offset) w.rows) 1) =
        w.position.offset := by omega
  have htaken : (w.options.rows.zipIdx.drop w.position.offset).take
      (max (min (w.options.rows.length - w.position.offset) w.rows) 1) =
        (w.options.rows.zipIdx.drop w.position.offset).take w.rows := by
    have hlength : (w.options.rows.zipIdx.drop w.position.offset).length =
        w.options.rows.length - w.position.offset := by rw [List.length_drop, List.length_zipIdx]
    rw [List.take_eq_take_iff, hlength]
    omega
  rw [hstart, htaken]
  exact hmem

theorem selectedCells_mem_bodyRows {w : Table}
    (h : w.position.Shown w.options.rows.length w.rows) {cells : List Text}
    (hcells : w.options.rows[w.position.cursor]? = some cells) :
    w.selectedCells cells ∈ w.bodyRows := by
  have hmem := mem_shownRows h hcells
  rw [selectedCells, bodyRows]
  split
  · exact List.mem_cons_self
  · rw [if_neg (by rw [List.isEmpty_iff, List.map_eq_nil_iff]; exact List.ne_nil_of_mem hmem)]
    refine List.mem_cons_of_mem _ (List.mem_map.mpr ⟨_, hmem, ?_⟩)
    rw [beq_self_eq_true]

theorem shows_focus {w : Table} (h : w.position.Shown w.options.rows.length w.rows)
    (hne : w.options.rows.length ≠ 0) :
    ∃ row, w.focusRow? = some row ∧ Shows w.view row := by
  obtain ⟨cells, hcells⟩ := h.exists_item hne
  have hbody := selectedCells_mem_bodyRows h hcells
  refine ⟨_, by rw [focusRow?, hcells]; rfl, shows_paintRows ?_⟩
  refine List.mem_append_left _ (List.mem_append_right _ ?_)
  rw [tableRows]
  split
  · exact List.mem_append_left _ (List.mem_append_right _ (List.mem_map_of_mem hbody))
  · exact hbody

end Table

/-- The row of the item under the cursor, or of the text where the cursor stands. -/
def focusRow? : Widget → Option Row
  | .choose w => w.focusLine?.map (lineRow w.width w.palette)
  | .filter w => w.focusLine?.map (lineRow w.width w.palette)
  | .file w => w.focusLine?.map (lineRow w.width w.palette)
  | .write w => some (lineRow w.width w.palette w.focusLine)
  | .table w => w.focusRow?
  | _ => none

/-- **A cursor that is on screen is drawn**, as long as the widget is open. -/
theorem shows_focusRow {w : Widget} {pane : Pane} (h : w.pane? = some pane) (hshown : pane.Shown)
    (hne : pane.count ≠ 0) (hopen : w.isDone = false) :
    ∃ row, w.focusRow? = some row ∧ Shows w.view row := by
  rw [view, if_neg (by rw [hopen]; exact Bool.false_ne_true)]
  cases w
  case choose w =>
    obtain rfl := Option.some.inj h
    obtain ⟨line, hline, hshows⟩ := Choose.shows_focus hshown hne
    exact ⟨_, by rw [focusRow?, hline]; rfl, hshows⟩
  case filter w =>
    obtain rfl := Option.some.inj h
    obtain ⟨line, hline, hshows⟩ := Filter.shows_focus hshown hne
    exact ⟨_, by rw [focusRow?, hline]; rfl, hshows⟩
  case file w =>
    obtain rfl := Option.some.inj h
    obtain ⟨line, hline, hshows⟩ := File.shows_focus hshown hne
    exact ⟨_, by rw [focusRow?, hline]; rfl, hshows⟩
  case write w =>
    obtain rfl := Option.some.inj h
    exact ⟨_, rfl, Write.shows_focus hshown⟩
  case table w =>
    obtain rfl := Option.some.inj h
    exact Table.shows_focus hshown hne
  all_goals cases h

/-! ## Nothing to stand on -/

/-- The keys that ask for the item under the cursor. -/
def askingKeys : Kind → List KeyCode
  | .choose => [.enter, .tab, .char ' ', .char 'x']
  | .filter => [.enter, .tab]
  | .file => [.enter, .right, .char 'l']
  | .table => [.enter]
  | _ => []

/-- What a widget yields without an item under its cursor. -/
def vacantValue : Widget → Value
  | .choose _ => .list []
  | .filter w =>
      .list (if !w.toggles.isEmpty then w.toggles.order.filterMap fun i => w.options.items[i]?
        else if !w.options.strict && !w.query.value.isEmpty then [w.query.value] else [])
  | .table _ => .row .nothing
  | w => w.value

/-- A list that is submitted. -/
def submit : Widget → Widget
  | .choose w => .choose { w with phase := .submitted }
  | .filter w => .filter { w with phase := .submitted }
  | .table w => .table { w with phase := .submitted }
  | w => w

/-- A widget that has no item under its cursor: those keys that ask for one submit it as it is or
do nothing. -/
structure Vacant (w : Widget) : Prop where
  value_eq : w.value = w.vacantValue
  asked : ∀ tree k, k.code ∈ askingKeys w.kind →
    w.handleKey tree k = w ∨ w.handleKey tree k = w.submit

theorem Choose.vacant {w : Choose} (h : w.options.items = []) : Vacant (.choose w) := by
  have htoggle : w.toggleCurrent = w := by
    rw [toggleCurrent, if_neg (by simp [count, h])]
  refine ⟨?_, ?_⟩
  · show Value.list w.chosenItems = .list []
    simp [chosenItems, h]
  · rintro tree ⟨code, ctrl, alt, shift, action⟩ hk
    simp only [askingKeys, kind, List.mem_cons, List.not_mem_nil, or_false] at hk
    rcases hk with rfl | rfl | rfl | rfl
    · exact Or.inr rfl
    all_goals
      refine Or.inl (congrArg Widget.choose ?_)
      show (if w.options.isMulti = true then w.toggleCurrent else w) = w
      rw [htoggle, ite_self]

theorem Filter.vacant {w : Filter} (h : w.matching = []) : Vacant (.filter w) := by
  refine ⟨?_, ?_⟩
  · show Value.list w.chosenItems = .list _
    rw [chosenItems, h, List.getElem?_nil]
  · rintro tree ⟨code, ctrl, alt, shift, action⟩ hk
    simp only [askingKeys, kind, List.mem_cons, List.not_mem_nil, or_false] at hk
    rcases hk with rfl | rfl
    · exact Or.inr rfl
    · refine Or.inl (congrArg Widget.filter ?_)
      show (if w.options.isMulti = true then w.toggleCurrent else w.edit _) = w
      have htoggle : w.toggleCurrent = w := by
        rw [toggleCurrent, h, List.getElem?_nil]
      have hedit : w.edit ⟨.tab, ctrl, alt, shift, action⟩ = w := if_pos rfl
      rw [htoggle, hedit, ite_self]

theorem File.vacant {w : File} (h : w.entries = []) : Vacant (.file w) := by
  have hcurrent : w.current? = none := by rw [current?, h, List.getElem?_nil]
  refine ⟨rfl, ?_⟩
  rintro tree ⟨code, ctrl, alt, shift, action⟩ hk
  simp only [askingKeys, kind, List.mem_cons, List.not_mem_nil, or_false] at hk
  refine Or.inl (congrArg Widget.file ?_)
  rcases hk with rfl | rfl | rfl
  · show w.choose tree = w
    rw [choose, hcurrent]
  all_goals
    show w.descend tree = w
    rw [descend, hcurrent]

theorem Table.vacant {w : Table} (h : w.options.rows = []) : Vacant (.table w) := by
  refine ⟨?_, ?_⟩
  · show Value.row w.selection = .row .nothing
    rw [selection, h, List.getElem?_nil]
  · rintro tree ⟨code, ctrl, alt, shift, action⟩ hk
    simp only [askingKeys, kind, List.mem_cons, List.not_mem_nil, or_false] at hk
    subst hk
    exact Or.inr rfl

theorem vacant_of_count {w : Widget} {pane : Pane} (h : w.pane? = some pane)
    (hcount : pane.count = 0) : Vacant w := by
  cases w
  case choose w =>
    obtain rfl := Option.some.inj h
    exact Choose.vacant (List.length_eq_zero_iff.mp hcount)
  case filter w =>
    obtain rfl := Option.some.inj h
    exact Filter.vacant (List.length_eq_zero_iff.mp hcount)
  case file w =>
    obtain rfl := Option.some.inj h
    exact File.vacant (List.length_eq_zero_iff.mp hcount)
  case write w =>
    obtain rfl := Option.some.inj h
    have hlt : w.text.row < w.pane.count := Write.row_lt w.text
    omega
  case table w =>
    obtain rfl := Option.some.inj h
    exact Table.vacant (List.length_eq_zero_iff.mp hcount)
  all_goals cases h

/-! ## The cursor -/

/-- A widget whose cursor can be relied on: it stands on an item that is shown and drawn, or there
is none and nothing asks for it. -/
structure Focused (w : Widget) (pane : Pane) : Prop where
  /-- What the widget shows. -/
  pane_eq : w.pane? = some pane
  /-- The cursor is inside the list and inside the rows shown; in an empty list it is at the
  start. -/
  shown : pane.Shown
  /-- What is under the cursor is drawn. -/
  drawn : w.isDone = false → pane.count ≠ 0 →
    ∃ row, w.focusRow? = some row ∧ Shows w.view row
  /-- Without items no key finds one. -/
  vacant : pane.count = 0 → Vacant w

/-- **The cursor is on screen**, after any calls among which there was a size, whatever the
options were. -/
theorem focus_on_screen {tree : Tree} {kind : Kind} {options : Json} {p : Palette} {start : Widget}
    (hmake : make tree kind options p = .ok start) (hkind : HasCursor kind) {calls : List Call}
    (hsized : ∃ c ∈ calls, c.isResize = true) :
    ∃ pane, Focused (start.after calls) pane := by
  obtain ⟨made, hmade, hplaced⟩ := placed_of_make hmake hkind
  obtain ⟨pane, hpane, hshown⟩ := shown_after hsized hmade hplaced
  exact ⟨pane, hpane, hshown, fun hopen hne => shows_focusRow hpane hshown hne hopen,
    vacant_of_count hpane⟩

/-- A table with room for one row, opened at its last one; the row moved to is drawn. -/
theorem focus_on_screen_table :
    let options := Json.object
      [("rows".toList, .array [.array [.string "a".toList], .array [.string "b".toList],
        .array [.string "c".toList]]),
        ("selected_index".toList, .number (.natural 7))]
    let calls : List Call := [.resize 9 1, .message {} (.key { code := .up })]
    ∃ start, make {} .table options Palette.standalone = .ok start ∧
      HasCursor .table ∧ (∃ c ∈ calls, c.isResize = true) ∧
      Focused (start.after calls) ⟨⟨1, 1⟩, 3, 1⟩ := by
  intro options calls
  obtain ⟨start, hmake, hpane⟩ : ∃ start, make {} .table options Palette.standalone = .ok start ∧
      (start.after calls).pane? = some ⟨⟨1, 1⟩, 3, 1⟩ := ⟨_, rfl, rfl⟩
  have hsized : ∃ c ∈ calls, c.isResize = true := ⟨_, List.mem_cons_self, rfl⟩
  obtain ⟨pane, hfocused⟩ := focus_on_screen hmake (by decide) hsized
  obtain rfl := Option.some.inj (hpane.symm.trans hfocused.pane_eq)
  exact ⟨start, hmake, by decide, hsized, hfocused⟩

end Widget
end TerminalDialogs
