import TerminalDialogs.Widget

/-!
# What each kind of widget keeps

Some things have to be known of each kind before anything can be said of all
widgets alike.

A pressed key that is not meant to dismiss a widget leaves it open or submits
it, so a widget is dismissed by such a key only (`Phase.Onward`).

The keys of the file picker open and leave directories in several ways, and what any of them does
to the picker is said once (`File.Step`).

A new size brings the cursor of a list back among its items.  That changes what
the widget yields only if the cursor was outside, and it never is: it starts
inside, and whatever moves it or changes the list puts it there again
(`ListCursor.Within`).
-/

namespace TerminalDialogs

open Files (Tree)

/-! ## Cursors -/

namespace ListCursor

/-- The cursor stands on one of the items, or there are none. -/
def Within (count : Nat) (c : ListCursor) : Prop := c.cursor < count ∨ count = 0

theorem within_start (count : Nat) : Within count {} := by
  rcases Nat.eq_zero_or_pos count with h | h
  · exact Or.inr h
  · exact Or.inl h

theorem within_move (count rows : Nat) (m : Motion) (c : ListCursor) :
    Within count (c.move count rows m) := by
  rcases Nat.eq_zero_or_pos count with h | h
  · exact Or.inr h
  · exact Or.inl (cursor_move_lt h rows m c)

theorem cursor_reveal (rows : Nat) (c : ListCursor) : (c.reveal rows).cursor = c.cursor := by
  unfold reveal
  split
  · rfl
  · split
    · rfl
    · rfl

/-- Moving by nothing leaves a cursor where it is, if it is inside. -/
theorem Within.cursor_move {count : Nat} {c : ListCursor} (h : Within count c) (rows : Nat) :
    (c.move count rows (.forward 0)).cursor = c.cursor := by
  unfold move
  split
  · rfl
  · next hcount =>
    rw [cursor_reveal]
    have hlt : c.cursor < count := h.resolve_right hcount
    show min (c.cursor + 0) (count - 1) = c.cursor
    omega

end ListCursor

namespace Widget

/-- A widget that goes on: its phase stays, or it is submitted. -/
def Phase.Onward (before after : Phase) : Prop := after = before ∨ after = .submitted

@[simp] theorem Phase.Onward.refl (phase : Phase) : phase.Onward phase := Or.inl rfl

@[simp] theorem Phase.onward_submitted (phase : Phase) : phase.Onward .submitted := Or.inr rfl

/-! ## Widgets without a list -/

theorem Input.onward_handleKey (w : Input) {k : Key} (hk : ¬ k.isCancel = true) :
    w.phase.Onward (w.handleKey k).phase := by
  fun_cases Input.handleKey w k
  · contradiction
  · simp
  · simp

theorem Confirm.onward_handleKey (w : Confirm) {k : Key} (hk : ¬ k.isCancel = true) :
    w.phase.Onward (w.handleKey k).phase := by
  fun_cases Confirm.handleKey w k
  case case1 hcancel => exact absurd hcancel hk
  all_goals simp

@[simp] theorem Write.phase_reveal (w : Write) : w.reveal.phase = w.phase := by
  fun_cases Write.reveal w <;> rfl

@[simp] theorem Write.text_reveal (w : Write) : w.reveal.text = w.text := by
  fun_cases Write.reveal w <;> rfl

theorem Write.onward_handleKey (w : Write) {k : Key} (hk : ¬ k.isCancel = true) :
    w.phase.Onward (w.handleKey k).phase := by
  fun_cases Write.handleKey w k
  case case1 hcancel => exact absurd hcancel hk
  all_goals simp

theorem Spin.onward_handleKey (w : Spin) {k : Key} (hk : ¬ k.isCancel = true) :
    w.phase.Onward (w.handleKey k).phase := by
  rw [handleKey, if_neg hk]
  exact Phase.Onward.refl _

@[simp] theorem Pager.phase_scroll (w : Pager) (f : Viewport → Viewport) :
    (w.scroll f).phase = w.phase := rfl

theorem Pager.onward_handleKey (w : Pager) {k : Key} (hk : ¬ k.isCancel = true) :
    w.phase.Onward (w.handleKey k).phase := by
  fun_cases Pager.handleKey w k
  case case1 hcancel => exact absurd hcancel hk
  all_goals simp

/-! ## The choice from a list -/

@[simp] theorem Choose.phase_move (w : Choose) (m : ListCursor.Motion) :
    (w.move m).phase = w.phase := rfl

@[simp] theorem Choose.phase_toggleAll (w : Choose) : w.toggleAll.phase = w.phase := by
  fun_cases Choose.toggleAll w <;> rfl

@[simp] theorem Choose.phase_toggleCurrent (w : Choose) : w.toggleCurrent.phase = w.phase := by
  fun_cases Choose.toggleCurrent w <;> rfl

theorem Choose.onward_handleKey (w : Choose) {k : Key} (hk : ¬ k.isCancel = true) :
    w.phase.Onward (w.handleKey k).phase := by
  fun_cases Choose.handleKey w k
  case case1 hcancel => exact absurd hcancel hk
  all_goals simp

/-! ## The list that is narrowed down by typing -/

namespace Filter

/-- The cursor is among the matches. -/
def Aimed (w : Filter) : Prop := w.position.Within w.count

@[simp] theorem phase_refresh (w : Filter) : w.refresh.phase = w.phase := rfl

@[simp] theorem phase_move (w : Filter) (m : ListCursor.Motion) : (w.move m).phase = w.phase := rfl

@[simp] theorem phase_moveSeen (w : Filter) (m : ListCursor.Motion) :
    (w.moveSeen m).phase = w.phase := rfl

@[simp] theorem phase_toggleCurrent (w : Filter) : w.toggleCurrent.phase = w.phase := by
  fun_cases Filter.toggleCurrent w <;> rfl

@[simp] theorem phase_edit (w : Filter) (k : Key) : (w.edit k).phase = w.phase := by
  fun_cases Filter.edit w k <;> rfl

theorem onward_handleKey (w : Filter) {k : Key} (hk : ¬ k.isCancel = true) :
    w.phase.Onward (w.handleKey k).phase := by
  fun_cases Filter.handleKey w k
  case case1 hcancel => exact absurd hcancel hk
  all_goals simp

@[simp] theorem aimed_phase {w : Filter} {phase : Phase} :
    Aimed { w with phase } ↔ w.Aimed := Iff.rfl

@[simp] theorem aimed_refresh (w : Filter) : w.refresh.Aimed := ListCursor.within_start _

@[simp] theorem aimed_move (w : Filter) (m : ListCursor.Motion) : (w.move m).Aimed :=
  ListCursor.within_move _ _ m w.position

@[simp] theorem aimed_moveSeen (w : Filter) (m : ListCursor.Motion) : (w.moveSeen m).Aimed :=
  aimed_move w _

theorem Aimed.toggleCurrent {w : Filter} (h : w.Aimed) : w.toggleCurrent.Aimed := by
  fun_cases Filter.toggleCurrent w
  · exact h
  · exact aimed_moveSeen _ _

theorem Aimed.edit {w : Filter} (h : w.Aimed) (k : Key) : (w.edit k).Aimed := by
  fun_cases Filter.edit w k
  · exact h
  · exact aimed_refresh _

theorem Aimed.handleKey {w : Filter} (h : w.Aimed) (k : Key) : (w.handleKey k).Aimed := by
  fun_cases Filter.handleKey w k
  all_goals simp [h, h.edit, h.toggleCurrent]

theorem aimed_make (options : Options.Filter) (p : Modal.Palette) : (make options p).Aimed := by
  fun_cases Filter.make options p
  · exact Or.inr rfl
  · exact aimed_refresh _

end Filter

/-! ## The file picker -/

namespace File

variable (tree : Tree)

@[simp] theorem phase_openDirectory (w : File) (directory : Text) :
    (openDirectory tree w directory).phase = w.phase := by
  fun_cases File.openDirectory tree w directory <;> rfl

@[simp] theorem phase_move (w : File) (m : ListCursor.Motion) : (w.move m).phase = w.phase := rfl

@[simp] theorem phase_descend (w : File) : (w.descend tree).phase = w.phase := by
  fun_cases File.descend tree w <;> simp

@[simp] theorem phase_ascend (w : File) : (w.ascend tree).phase = w.phase := by
  fun_cases File.ascend tree w
  · rfl
  · exact phase_openDirectory tree w _
  · exact phase_openDirectory tree w _
  · exact phase_openDirectory tree w _

theorem onward_choose (w : File) : w.phase.Onward (w.choose tree).phase := by
  fun_cases File.choose tree w
  all_goals simp [pick]

theorem onward_handleKey (w : File) {k : Key} (hk : ¬ k.isCancel = true) :
    w.phase.Onward (w.handleKey tree k).phase := by
  fun_cases File.handleKey tree w k
  case case1 hcancel => exact absurd hcancel hk
  all_goals simp [onward_choose]

/-- What a key does to a file picker: it dismisses the picker, moves the cursor, enters a directory
that is listed, leaves for the parent, picks an entry that may be picked, or does nothing. -/
inductive Step (w : File) : File → Prop where
  | same : Step w w
  | cancelled : Step w { w with phase := .cancelled }
  | moved (m : ListCursor.Motion) : Step w (w.move m)
  | entered {e : Files.Listed} (he : e ∈ w.entries) (hdirectory : e.isDirectory = true) :
      Step w (openDirectory tree w (Path.child w.directory e.name))
  | left {parent : Text} (hparent : Path.parent? w.directory = some parent) :
      Step w (openDirectory tree w parent)
  | leftTo {parent : Text} (hparent : Path.parent? w.directory = some parent)
      (m : ListCursor.Motion) : Step w ((openDirectory tree w parent).move m)
  | picked {e : Files.Listed} (he : e ∈ w.entries)
      (hallowed : if e.isDirectory = true then w.options.dirAllowed = true
        else fileAllowed w.options e.name = true) : Step w (w.pick e.name)

theorem step_descend (w : File) : Step tree w (w.descend tree) := by
  fun_cases File.descend tree w
  · exact .same
  · next e hcurrent hdirectory => exact .entered (List.mem_of_getElem? hcurrent) hdirectory
  · exact .same

theorem step_ascend (w : File) : Step tree w (w.ascend tree) := by
  fun_cases File.ascend tree w
  · exact .same
  · exact .left ‹_›
  · exact .left ‹_›
  · exact .leftTo ‹_› _

theorem step_choose (w : File) : Step tree w (w.choose tree) := by
  fun_cases File.choose tree w
  · exact .same
  · next e hcurrent hdirectory hallowed =>
    exact .picked (List.mem_of_getElem? hcurrent) (by rwa [if_pos hdirectory])
  · exact step_descend tree w
  · next e hcurrent hdirectory hallowed =>
    exact .picked (List.mem_of_getElem? hcurrent) (by rwa [if_neg hdirectory])
  · exact .same

/-- **Every key takes a step.** -/
theorem step_handleKey (w : File) (k : Key) : Step tree w (w.handleKey tree k) := by
  fun_cases File.handleKey tree w k
  · exact .cancelled
  all_goals first
    | exact .moved _
    | exact step_descend tree w
    | exact step_ascend tree w
    | exact step_choose tree w
    | exact .same

end File

/-! ## The row picker -/

namespace Table

/-- The cursor is among the rows. -/
def Aimed (w : Table) : Prop := w.position.Within w.count

@[simp] theorem phase_move (w : Table) (m : ListCursor.Motion) : (w.move m).phase = w.phase := rfl

@[simp] theorem aimed_phase {w : Table} {phase : Phase} :
    Aimed { w with phase } ↔ w.Aimed := Iff.rfl

@[simp] theorem aimed_move (w : Table) (m : ListCursor.Motion) : (w.move m).Aimed :=
  ListCursor.within_move _ _ m w.position

/-- The letter Q dismisses a table, too. -/
theorem onward_handleKey (w : Table) {k : Key} (hk : ¬ k.isCancel = true)
    (hq : k.code ≠ .char 'q') : w.phase.Onward (w.handleKey k).phase := by
  fun_cases Table.handleKey w k
  case case1 hcancel =>
    rcases Bool.or_eq_true_iff.mp hcancel with hcancel | hcancel
    · exact absurd hcancel hk
    · exact absurd (beq_iff_eq.mp hcancel) hq
  all_goals simp

theorem Aimed.handleKey {w : Table} (h : w.Aimed) (k : Key) : (w.handleKey k).Aimed := by
  fun_cases Table.handleKey w k
  all_goals simp [h]

theorem aimed_make (options : Options.Table) (p : Modal.Palette) : (make options p).Aimed := by
  rcases Nat.eq_zero_or_pos (make options p).count with h | h
  · exact Or.inr h
  · refine Or.inl (Nat.lt_of_le_of_lt (Nat.min_le_right _ _) ?_)
    exact Nat.sub_lt h Nat.one_pos

end Table

end Widget
end TerminalDialogs
