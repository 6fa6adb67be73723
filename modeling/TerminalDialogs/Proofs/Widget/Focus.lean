import TerminalDialogs.Proofs.Widget.Presentable

/-!
# The cursor is on screen

Four kinds of widgets show a list of which only some rows have room, and the editor shows some
rows of its text.  Cursor, list and room change independently: keys move the cursor, typing and
entering directories replace the list, and a new size changes the room.  Whatever happened, once
the widget has been given a size the cursor is among the rows shown (`Widget.shown_after`).

What a key can do to the cursor is said once (`Pane.Follows`): nothing, a start at the top of a
list, or a place inside the list to which the offset is moved.  Each of these keeps the cursor
inside (`Pane.Follows.placed`) and on screen (`Pane.Follows.shown`).  Only a widget that has just
been made can have its cursor inside but off screen, and its first size mends that
(`Widget.shown_setSize`).
-/

namespace TerminalDialogs

open Files (Tree)
open Screen (Row Line)

/-! ## Cursors -/

namespace ListCursor

/-- The cursor stands on one of the items; in an empty list it is at the start. -/
def Placed (count : Nat) (c : ListCursor) : Prop :=
  if count = 0 then c = {} else c.cursor < count

/-- The cursor stands on one of the items, and among the rows from the offset on; in an empty list
it is at the start. -/
def Shown (count rows : Nat) (c : ListCursor) : Prop :=
  if count = 0 then c = {}
  else c.cursor < count ∧ c.offset ≤ c.cursor ∧ c.cursor < c.offset + rows

variable {count rows : Nat} {c : ListCursor}

theorem Shown.placed (h : c.Shown count rows) : c.Placed count := by
  unfold Shown at h
  unfold Placed
  split at h
  · next hcount => rwa [if_pos hcount]
  · next hcount => rw [if_neg hcount]; exact h.1

theorem Placed.cursor_lt {α : Type} {items : List α} (h : c.Placed items.length)
    (hne : items ≠ []) : c.cursor < items.length := by
  rwa [Placed, if_neg (mt List.length_eq_zero_iff.mp hne)] at h

theorem shown_start (hrows : 0 < rows) : Shown count rows {} := by
  unfold Shown
  split
  · rfl
  · next hcount => exact ⟨Nat.pos_of_ne_zero hcount, Nat.le_refl 0, Nat.lt_add_left 0 hrows⟩

theorem placed_start (count : Nat) : Placed count {} :=
  (shown_start Nat.one_pos).placed

theorem shown_reveal (hrows : 0 < rows) (hc : c.cursor < count) :
    (c.reveal rows).Shown count rows := by
  unfold Shown reveal
  rw [if_neg (by omega)]
  split
  · exact ⟨hc, Nat.le_refl _, by dsimp only; omega⟩
  · split
    · exact ⟨hc, by dsimp only; omega, by dsimp only; omega⟩
    · exact ⟨hc, by omega, by omega⟩

theorem Placed.shown_reveal (h : c.Placed count) (hrows : 0 < rows) :
    (c.reveal rows).Shown count rows := by
  unfold Placed at h
  split at h
  · next hcount =>
    subst h
    have hstart : ({} : ListCursor).reveal rows = {} := by
      rw [reveal, if_neg (by simp), if_neg (by simp; omega)]
    rw [hstart]
    exact shown_start hrows
  · exact ListCursor.shown_reveal hrows h

theorem target_lt (hcount : count ≠ 0) (m : Motion) (cursor : Nat) :
    m.target count cursor < count := by
  cases m <;> simp only [Motion.target] <;> omega

theorem Placed.shown_move (h : c.Placed count) (hrows : 0 < rows) (m : Motion) :
    (c.move count rows m).Shown count rows := by
  unfold move
  split
  · next hcount =>
    rw [Placed, if_pos hcount] at h
    rw [h]
    exact shown_start hrows
  · next hcount => exact ListCursor.shown_reveal hrows (target_lt hcount m _)

end ListCursor

/-! ## Panes -/

/-- A list of which some rows are shown: where the cursor stands, the number of items, and the
number of rows. -/
structure Pane where
  position : ListCursor
  count : Nat
  rows : Nat

namespace Pane

/-- What a key can do to a pane. -/
inductive Follows (before : Pane) : Pane → Prop where
  /-- Nothing happens. -/
  | same : Follows before before
  /-- A list is shown from its start. -/
  | start {count rows : Nat} (hrows : 0 < rows) : Follows before ⟨{}, count, rows⟩
  /-- The cursor is put on an item, and the offset follows it. -/
  | reveal {c : ListCursor} {count rows : Nat} (hrows : 0 < rows) (hc : c.cursor < count) :
      Follows before ⟨c.reveal rows, count, rows⟩

/-- The cursor is on screen. -/
def Shown (p : Pane) : Prop := p.position.Shown p.count p.rows

/-- The cursor is inside the list. -/
def Placed (p : Pane) : Prop := p.position.Placed p.count

variable {before after : Pane}

theorem Follows.shown (h : before.Follows after) (hbefore : before.Shown) : after.Shown := by
  cases h with
  | same => exact hbefore
  | start hrows => exact ListCursor.shown_start hrows
  | reveal hrows hc => exact ListCursor.shown_reveal hrows hc

theorem Follows.placed (h : before.Follows after) (hbefore : before.Placed) : after.Placed := by
  cases h with
  | same => exact hbefore
  | start hrows => exact (ListCursor.shown_start hrows).placed
  | reveal hrows hc => exact (ListCursor.shown_reveal hrows hc).placed

theorem Follows.trans {later : Pane} (h : before.Follows after) (hlater : after.Follows later) :
    before.Follows later := by
  cases hlater with
  | same => exact h
  | start hrows => exact .start hrows
  | reveal hrows hc => exact .reveal hrows hc

/-- A motion. -/
theorem follows_move {position : ListCursor} {count rows : Nat} (hrows : 0 < rows)
    (m : ListCursor.Motion) :
    Follows ⟨position, count, rows⟩ ⟨position.move count rows m, count, rows⟩ := by
  unfold ListCursor.move
  split
  · exact .same
  · next hcount => exact .reveal hrows (ListCursor.target_lt hcount m _)

end Pane

theorem listRows_pos (height taken limit : Nat) : 0 < listRows height taken limit := by
  rw [listRows]
  split
  · omega
  · omega

namespace Widget

/-! ## Keys -/

namespace Choose

/-- The items as they are shown. -/
def pane (w : Choose) : Pane := ⟨w.position, w.count, w.rows⟩

theorem rows_pos (w : Choose) : 0 < w.rows := listRows_pos _ _ _

theorem pane_toggleAll (w : Choose) : w.toggleAll.pane = w.pane := by
  fun_cases Choose.toggleAll w <;> rfl

theorem pane_toggleCurrent (w : Choose) : w.toggleCurrent.pane = w.pane := by
  fun_cases Choose.toggleCurrent w <;> rfl

theorem follows_handleKey (w : Choose) (k : Key) : w.pane.Follows (w.handleKey k).pane := by
  fun_cases Choose.handleKey w k
  all_goals first
    | exact .same
    | exact Pane.follows_move w.rows_pos _
    | rw [pane_toggleAll]; exact .same
    | rw [pane_toggleCurrent]; exact .same

/-- The position of the preselected item. -/
def preselected? (o : Options.Choose) : Option Nat :=
  if o.selected.isEmpty then none else o.items.idxOf? o.selected

theorem preselected_lt {o : Options.Choose} {i : Nat} (h : preselected? o = some i) :
    i < o.items.length := by
  rw [preselected?] at h
  split at h
  · exact nomatch h
  · exact (List.findIdx?_eq_some_iff_getElem.mp h).1

theorem make_eq (o : Options.Choose) (p : Modal.Palette) : make o p =
    match preselected? o with
    | none => { options := o, palette := p }
    | some i =>
        { options := o, palette := p, position := { cursor := i }
          toggles := if o.isMulti then ({} : Toggles).toggle i o.itemLimit else {} } := rfl

theorem placed_make (o : Options.Choose) (p : Modal.Palette) : (make o p).pane.Placed := by
  rw [make_eq]
  split
  · exact ListCursor.placed_start _
  · next i hi =>
    have hlt := preselected_lt hi
    show (if o.items.length = 0 then _ else i < o.items.length)
    rwa [if_neg (by omega)]

end Choose

namespace Filter

/-- The matches as they are shown. -/
def pane (w : Filter) : Pane := ⟨w.position, w.count, w.rows⟩

theorem rows_pos (w : Filter) : 0 < w.rows := listRows_pos _ _ _

theorem follows_move (w : Filter) (m : ListCursor.Motion) : w.pane.Follows (w.move m).pane :=
  Pane.follows_move w.rows_pos m

theorem follows_moveSeen (w : Filter) (m : ListCursor.Motion) :
    w.pane.Follows (w.moveSeen m).pane :=
  w.follows_move _

theorem follows_toggleCurrent (w : Filter) : w.pane.Follows w.toggleCurrent.pane := by
  fun_cases Filter.toggleCurrent w
  · exact .same
  · exact follows_moveSeen { w with toggles := _ } _

theorem follows_edit (w : Filter) (k : Key) : w.pane.Follows (w.edit k).pane := by
  fun_cases Filter.edit w k
  · exact .same
  · exact .start (rows_pos _)

theorem follows_handleKey (w : Filter) (k : Key) : w.pane.Follows (w.handleKey k).pane := by
  fun_cases Filter.handleKey w k
  all_goals first
    | exact .same
    | exact w.follows_moveSeen _
    | exact w.follows_edit k
    | exact w.follows_toggleCurrent

theorem placed_make (o : Options.Filter) (p : Modal.Palette) : (make o p).pane.Placed := by
  fun_cases Filter.make o p
  · exact ListCursor.placed_start _
  · exact ListCursor.placed_start _

end Filter

namespace File

variable (tree : Tree)

/-- The entries as they are shown. -/
def pane (w : File) : Pane := ⟨w.position, w.entries.length, w.rows⟩

theorem rows_pos (w : File) : 0 < w.rows := listRows_pos _ _ _

theorem follows_move (w : File) (m : ListCursor.Motion) : w.pane.Follows (w.move m).pane :=
  Pane.follows_move w.rows_pos m

/-- A directory is shown from its start, whatever was shown before. -/
theorem follows_openDirectory (before : Pane) (w : File) (directory : Text) :
    before.Follows (openDirectory tree w directory).pane := by
  fun_cases File.openDirectory tree w directory
  · exact .start (rows_pos _)
  · exact .start (rows_pos _)

theorem follows_step {w w' : File} (hstep : Step tree w w') : w.pane.Follows w'.pane := by
  cases hstep with
  | same => exact .same
  | cancelled => exact .same
  | moved m => exact w.follows_move m
  | entered he hdirectory => exact follows_openDirectory tree _ _ _
  | left hparent => exact follows_openDirectory tree _ _ _
  | leftTo hparent m => exact (follows_openDirectory tree _ _ _).trans (follows_move _ _)
  | picked he hallowed => exact .same

theorem follows_handleKey (w : File) (k : Key) : w.pane.Follows (w.handleKey tree k).pane :=
  follows_step tree (step_handleKey tree w k)

theorem placed_make (o : Options.File) (p : Modal.Palette) : (make tree o p).pane.Placed :=
  (follows_openDirectory tree ⟨{}, 0, 0⟩ _ _).placed (ListCursor.placed_start 0)

end File

namespace Write

/-- The rows of the text as they are shown. -/
def pane (w : Write) : Pane := ⟨⟨w.text.row, w.top⟩, w.text.lines.length, w.rows⟩

theorem rows_pos (w : Write) : 0 < w.rows := by
  rw [rows, defaultRows]
  split
  · omega
  · omega

theorem row_lt (t : TextArea) : t.row < t.lines.length := by
  rw [TextArea.lines, TextArea.row, List.length_append, List.length_cons]
  omega

theorem pane_reveal (w : Write) :
    w.reveal.pane = ⟨w.pane.position.reveal w.rows, w.text.lines.length, w.rows⟩ := by
  unfold reveal ListCursor.reveal
  show _ = Pane.mk (if w.text.row < w.top then _ else if w.top + w.rows ≤ w.text.row then _ else _)
    _ _
  split
  · rfl
  · split
    · rfl
    · rfl

/-- The first row shown follows the cursor, wherever that has gone. -/
theorem follows_reveal (before : Pane) (w : Write) : before.Follows w.reveal.pane := by
  rw [pane_reveal]
  exact .reveal w.rows_pos (row_lt w.text)

theorem follows_handleKey (w : Write) (k : Key) : w.pane.Follows (w.handleKey k).pane := by
  fun_cases Write.handleKey w k
  · exact .same
  · exact .same
  · exact follows_reveal _ _

theorem placed_make (o : Options.Write) (p : Modal.Palette) : (make o p).pane.Placed := by
  show (if (make o p).text.lines.length = 0 then _ else _)
  have hlt := row_lt (make o p).text
  rw [if_neg (by omega)]
  exact hlt

end Write

namespace Table

/-- The rows of the table as they are shown. -/
def pane (w : Table) : Pane := ⟨w.position, w.count, w.rows⟩

theorem rows_pos (w : Table) : 0 < w.rows := listRows_pos _ _ _

theorem follows_handleKey (w : Table) (k : Key) : w.pane.Follows (w.handleKey k).pane := by
  fun_cases Table.handleKey w k
  all_goals first
    | exact .same
    | exact Pane.follows_move w.rows_pos _

theorem placed_make (o : Options.Table) (p : Modal.Palette) : (make o p).pane.Placed := by
  show (if (make o p).count = 0 then (make o p).position = {} else (make o p).position.cursor < _)
  split
  · next hcount =>
    have hrows : (TerminalDialogs.Table.load o).rows.length - 1 = 0 := by
      rw [show (TerminalDialogs.Table.load o).rows.length = 0 from hcount]
    show ListCursor.mk (min _ ((TerminalDialogs.Table.load o).rows.length - 1)) 0 = {}
    rw [hrows, Nat.min_zero]
  · next hcount =>
    exact (aimed_make o p).resolve_right hcount

end Table

/-! ## Calls -/

/-- What a widget shows of a list or a text, if it is of a kind that has a cursor in one. -/
def pane? : Widget → Option Pane
  | .choose w => some w.pane
  | .filter w => some w.pane
  | .file w => some w.pane
  | .write w => some w.pane
  | .table w => some w.pane
  | _ => none

theorem pane?_finish (output : Output) (w : Widget) : (w.finish output).pane? = w.pane? := by
  cases w <;> rfl

theorem pane?_tick (w : Widget) : w.tick.1.pane? = w.pane? := by
  cases w <;> rfl

variable {w : Widget} {pane : Pane}

theorem follows_pressed (tree : Tree) (k : Key) (h : w.pane? = some pane) :
    ∃ after, (w.handleKey tree k).pane? = some after ∧ pane.Follows after := by
  cases w
  case choose w => exact ⟨_, rfl, Option.some.inj h ▸ w.follows_handleKey k⟩
  case filter w => exact ⟨_, rfl, Option.some.inj h ▸ w.follows_handleKey k⟩
  case file w => exact ⟨_, rfl, Option.some.inj h ▸ w.follows_handleKey tree k⟩
  case write w => exact ⟨_, rfl, Option.some.inj h ▸ w.follows_handleKey k⟩
  case table w => exact ⟨_, rfl, Option.some.inj h ▸ w.follows_handleKey k⟩
  all_goals exact nomatch h

theorem follows_update (tree : Tree) (m : Message) (h : w.pane? = some pane) :
    ∃ after, (w.update tree m).1.pane? = some after ∧ pane.Follows after := by
  fun_cases Widget.update tree m w
  · exact ⟨pane, h, .same⟩
  · exact follows_pressed tree _ h
  · exact ⟨pane, h, .same⟩
  · exact ⟨pane, (pane?_tick w).trans h, .same⟩
  · exact ⟨pane, (pane?_finish _ w).trans h, .same⟩

/-- **A size puts the cursor on screen**, if it is inside. -/
theorem shown_setSize (width height : Nat) (h : w.pane? = some pane) (hplaced : pane.Placed) :
    ∃ after, (w.setSize width height).pane? = some after ∧ after.Shown := by
  cases w
  case choose w =>
    obtain rfl := Option.some.inj h
    exact ⟨_, rfl, ListCursor.Placed.shown_reveal hplaced (listRows_pos _ _ _)⟩
  case filter w =>
    obtain rfl := Option.some.inj h
    exact ⟨_, rfl, ListCursor.Placed.shown_move hplaced (listRows_pos _ _ _) (.forward 0)⟩
  case file w =>
    obtain rfl := Option.some.inj h
    exact ⟨_, rfl, ListCursor.Placed.shown_move hplaced (listRows_pos _ _ _) (.forward 0)⟩
  case write w =>
    obtain rfl := Option.some.inj h
    have hlt : w.pane.position.cursor < w.pane.count := Write.row_lt w.text
    refine ⟨_, rfl, ?_⟩
    show (Write.reveal { w with width, height }).pane.Shown
    rw [Write.pane_reveal]
    exact ListCursor.shown_reveal (Write.rows_pos _) hlt
  case table w =>
    obtain rfl := Option.some.inj h
    exact ⟨_, rfl, ListCursor.Placed.shown_move hplaced (listRows_pos _ _ _) (.forward 0)⟩
  all_goals exact nomatch h

theorem placed_call (c : Call) (h : w.pane? = some pane) (hplaced : pane.Placed) :
    ∃ after, (w.call c).pane? = some after ∧ after.Placed := by
  rcases c with _ | ⟨tree, m⟩ | ⟨width, height⟩
  · exact ⟨pane, h, hplaced⟩
  · obtain ⟨after, hafter, hfollows⟩ := follows_update tree m h
    exact ⟨after, hafter, hfollows.placed hplaced⟩
  · obtain ⟨after, hafter, hshown⟩ := shown_setSize width height h hplaced
    exact ⟨after, hafter, hshown.placed⟩

theorem shown_call (c : Call) (h : w.pane? = some pane) (hshown : pane.Shown) :
    ∃ after, (w.call c).pane? = some after ∧ after.Shown := by
  rcases c with _ | ⟨tree, m⟩ | ⟨width, height⟩
  · exact ⟨pane, h, hshown⟩
  · obtain ⟨after, hafter, hfollows⟩ := follows_update tree m h
    exact ⟨after, hafter, hfollows.shown hshown⟩
  · exact shown_setSize width height h hshown.placed

/-- The cursor stays inside the list, whatever happens. -/
theorem placed_after (calls : List Call) (h : w.pane? = some pane) (hplaced : pane.Placed) :
    ∃ after, (w.after calls).pane? = some after ∧ after.Placed :=
  after_invariant (P := fun w => ∃ pane, w.pane? = some pane ∧ pane.Placed)
    (fun _ c ⟨_, hpane, hin⟩ => placed_call c hpane hin) ⟨pane, h, hplaced⟩ calls

/-- **The cursor stays on screen** from the first size on. -/
theorem shown_after {calls : List Call} (hsized : ∃ c ∈ calls, c.isResize = true)
    (h : w.pane? = some pane) (hplaced : pane.Placed) :
    ∃ after, (w.after calls).pane? = some after ∧ after.Shown := by
  obtain ⟨c, hc, hresize⟩ := hsized
  obtain ⟨earlier, later, rfl⟩ := List.append_of_mem hc
  obtain ⟨reached, hreached, hin⟩ := placed_after earlier h hplaced
  rcases c with _ | _ | ⟨width, height⟩
  · exact nomatch hresize
  · exact nomatch hresize
  · rw [after_append, after_cons]
    exact after_invariant (P := fun w => ∃ pane, w.pane? = some pane ∧ pane.Shown)
      (fun _ c ⟨_, hpane, hon⟩ => shown_call c hpane hon)
      (shown_setSize width height hreached hin) later

/-- A kind with a cursor in a list or a text. -/
def HasCursor (kind : Kind) : Prop := kind ∈ [Kind.choose, .filter, .file, .write, .table]

instance (kind : Kind) : Decidable (HasCursor kind) :=
  inferInstanceAs (Decidable (kind ∈ [Kind.choose, .filter, .file, .write, .table]))

/-- A widget is made with its cursor inside. -/
theorem placed_of_make {tree : Tree} {kind : Kind} {options : Json} {p : Modal.Palette}
    (h : make tree kind options p = .ok w) (hkind : HasCursor kind) :
    ∃ pane, w.pane? = some pane ∧ pane.Placed := by
  cases kind
  case choose =>
    obtain ⟨o, -, rfl⟩ := exists_read h
    exact ⟨_, rfl, Choose.placed_make o p⟩
  case filter =>
    obtain ⟨o, -, rfl⟩ := exists_read h
    exact ⟨_, rfl, Filter.placed_make o p⟩
  case file =>
    obtain ⟨o, -, rfl⟩ := exists_read h
    exact ⟨_, rfl, File.placed_make tree o p⟩
  case write =>
    obtain ⟨o, -, rfl⟩ := exists_read h
    exact ⟨_, rfl, Write.placed_make o p⟩
  case table =>
    obtain ⟨o, -, rfl⟩ := exists_read h
    exact ⟨_, rfl, Table.placed_make o p⟩
  all_goals exact absurd hkind (by decide)

end Widget
end TerminalDialogs
