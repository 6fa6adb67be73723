import Mathlib.Data.List.Basic
import Mathlib.Order.Basic
import TerminalDialogs.Proofs.Widget.FlatText
import TerminalDialogs.Proofs.Widget.Protocol

/-!
# What a field shows of its text

The window on a line is computed from three numbers that know nothing of each other: the length
of the line, the position of the cursor and the width of the field.  Here is what the window
shows whatever these are (`LineBuffer.Window.Frames`): neighbouring pieces of the line around
the cursor, never more than there is room for, and the whole line if there is room for it and
for the cursor behind it.

A line is held in two parts around the cursor, so no position is ever looked up in it.  The window
on a line that is held in one part is read by positions, and each of them may be out of range;
none is (`LineBuffer.read?_eq`), because a line held in two parts is one whose cursor is in it.
The lines of an editor are edited by positions too, by the keys that reach its text
(`Widget.Write.text_after`), before a window on one of them is read.
-/

namespace TerminalDialogs

open Screen Positions

namespace LineBuffer

variable {b : LineBuffer}

/-! ## The limit of a line -/

/-- A line with a limit is not longer. -/
def Bounded (limit : Nat) (b : LineBuffer) : Prop :=
  b.limit = limit ∧ (0 < limit → b.length ≤ limit)

namespace Bounded

variable {limit : Nat}

theorem ofText (value : Text) (limit : Nat) : Bounded limit (ofText value limit) := by
  refine ⟨rfl, fun hlimit => ?_⟩
  rw [length, LineBuffer.value, LineBuffer.ofText, if_neg (Nat.ne_of_gt hlimit), List.append_nil]
  exact List.length_take_le _ _

/-- A change that makes the line no longer. -/
theorem of_le (h : b.Bounded limit) {b' : LineBuffer} (hlimit : b'.limit = b.limit)
    (hle : b'.length ≤ b.length) : b'.Bounded limit :=
  ⟨hlimit.trans h.1, fun hpos => hle.trans (h.2 hpos)⟩

/-- A change of the position of the cursor. -/
theorem of_moved (h : b.Bounded limit) {b' : LineBuffer} {i : Nat} (hlimit : b'.limit = b.limit)
    (hmoved : b'.indexed = b.indexed.moveTo i) : b'.Bounded limit :=
  h.of_le hlimit (congrArg (·.chars.length) hmoved).le

theorem insert (h : b.Bounded limit) (c : Char) : (b.insert c).Bounded limit := by
  rw [LineBuffer.insert]
  split
  · exact h
  · next hroom =>
    refine ⟨h.1, fun hpos => ?_⟩
    have hlt : b.length < limit := by
      rw [isFull, h.1, Bool.and_eq_true, bne_iff_ne, decide_eq_true_iff] at hroom
      omega
    simp only [length, value, List.length_append, List.length_singleton] at hlt ⊢
    omega

theorem handleKey (h : b.Bounded limit) (k : Key) : (b.handleKey k).Bounded limit := by
  rw [LineBuffer.handleKey, handleKey?]
  cases k.code with
  | char c =>
    dsimp only
    split
    · split
      · exact h.of_moved rfl toStart_indexed
      · split
        · exact h.of_moved rfl toEnd_indexed
        · split
          · exact h.of_le rfl (by simp [clearToStart, length, value])
          · exact h
    · exact h.insert c
  | backspace => exact h.of_le rfl (by simp [backspace, length, value])
  | delete => exact h.of_le rfl (by simp [delete, length, value])
  | left => exact h.of_moved rfl left_indexed
  | right => exact h.of_moved rfl right_indexed
  | home => exact h.of_moved rfl toStart_indexed
  | endKey => exact h.of_moved rfl toEnd_indexed
  | _ => exact h

theorem foldl_handleKey (h : b.Bounded limit) (keys : List Key) :
    (keys.foldl LineBuffer.handleKey b).Bounded limit := by
  induction keys generalizing b with
  | nil => exact h
  | cons k keys ih => exact ih (h.handleKey k)

end Bounded

/-! ## Windows -/

/-- The window on a text with a cursor at a position, read by positions; `none` if one of them is
out of range. -/
def Window.read? (s : Text) (cursor width : Nat) : Option Window :=
  let start := cursor + 1 - max width 1
  (slice? s start cursor).map fun before =>
    { before
      under := [s[cursor]?.getD ' ']
      after := (s.drop (cursor + 1)).take (width - (cursor - start + 1)) }

/-- **What a window shows** of a text with a cursor, in a field of some width, which has room for
the cursor at least. -/
structure Window.Frames (w : Window) (s : Text) (cursor width : Nat) : Prop where
  /-- It is read without a position out of range. -/
  read : Window.read? s cursor width = some w
  /-- What stands before the cursor, under it and behind it are neighbouring pieces of the text,
  and nothing else is left out if there is room for the text and a cursor behind it. -/
  pieces : ∃ hidden rest, s = hidden ++ w.before ++ s[cursor]?.toList ++ w.after ++ rest ∧
    (hidden ++ w.before).length = cursor ∧
    (s.length + 1 ≤ max width 1 → hidden = [] ∧ rest = [])
  /-- Under the cursor is its character, or a blank behind the last one. -/
  under_eq : w.under = [s[cursor]?.getD ' ']
  /-- There is room for all of it. -/
  length_le : w.before.length + w.under.length + w.after.length ≤ max width 1

theorem read?_eq (before after : Text) (width : Nat) :
    Window.read? (before ++ after) before.length width = some (Window.of before after width) := by
  have hafter : (before ++ after).drop (before.length + 1) = after.tail := by
    rw [← List.drop_drop, List.drop_left, List.drop_one]
  rw [Window.read?, Window.of, slice?_append (by omega), getElem?_length, hafter,
    ← List.headD_eq_head?_getD]
  rfl

/-- **The window on a text shows it faithfully**, whatever its length, the position of the cursor
and the width are. -/
theorem Window.frames_of (before after : Text) (width : Nat) :
    (Window.of before after width).Frames (before ++ after) before.length width := by
  refine ⟨read?_eq before after width, ?_, ?_, ?_⟩
  · rw [getElem?_length]
    refine ⟨before.take (before.length + 1 - max width 1), after.tail.drop (width -
      (before.length - (before.length + 1 - max width 1) + 1)), ?_, ?_, fun hroom => ?_⟩
    · rw [Window.of, List.take_append_drop, List.append_assoc _ _ (List.drop _ _),
        List.take_append_drop, List.append_assoc]
      cases after with
      | nil => rfl
      | cons c after => rfl
    · rw [Window.of, List.take_append_drop]
    · rw [List.length_append] at hroom
      constructor
      · rw [List.take_eq_nil_iff]
        omega
      · rw [List.drop_eq_nil_iff, List.length_tail]
        omega
  · rw [getElem?_length, Window.of, List.headD_eq_head?_getD]
  · rw [Window.of]
    simp only [List.length_drop, List.length_singleton, List.length_take]
    omega

theorem Window.of_max (before after : Text) (width : Nat) :
    Window.of before after (max width 1) = Window.of before after width := by
  rw [Window.of, Window.of, Nat.max_eq_left (Nat.le_max_right width 1)]
  congr 2
  omega

theorem window_frames (b : LineBuffer) (width : Nat) (mask : Bool) :
    (b.window width mask).Frames (b.value.map (shownChar mask)) b.cursor width := by
  have hcursor : (b.before.map (shownChar mask)).length = b.cursor := List.length_map _
  rw [window, Window.of_max, value, List.map_append, ← hcursor]
  exact Window.frames_of _ _ width

/-- A long text is shown from where on there is room for the cursor behind it. -/
example : (ofText "abcdefgh".toList 0).window 5 true = ⟨"••••".toList, [' '], []⟩ := by decide

/-- Three spans show a text with a cursor in a field of some width. -/
def Drawn (spans : List Span) (s : Text) (cursor width : Nat) : Prop :=
  ∃ w : Window, spans.map Span.text = [w.before, w.under, w.after] ∧ w.Frames s cursor width

theorem Window.Frames.drawn {w : Window} {s : Text} {cursor width : Nat}
    (h : w.Frames s cursor width) (style : Style) : Drawn (w.spans style) s cursor width :=
  ⟨w, rfl, h⟩

end LineBuffer

/-! ## The row of the cursor in a text of several lines -/

namespace TextArea

variable {t : TextArea}

theorem getElem?_row (t : TextArea) : t.lines[t.row]? = some t.current := getElem?_append

theorem column_le (t : TextArea) : t.column ≤ t.current.length := length_le_append t.before t.after

theorem length_current_le (t : TextArea) : t.current.length ≤ t.value.length := by
  rw [value_eq, front, back, current]
  simp only [List.length_append]
  omega

theorem lines_enter (above : List Text) (line : Text) (below : List Text) (column limit : Nat) :
    (enter above line below column limit).lines = above ++ line :: below := by
  rw [enter, lines, current, List.take_append_drop]

theorem value_up (t : TextArea) : t.up.value = t.value := by
  rw [up]
  split
  · rfl
  · next line hline =>
    obtain ⟨above, habove⟩ := List.getLast?_eq_some_iff.mp hline
    rw [value, value, lines_enter, habove, List.dropLast_concat, lines, habove, List.append_assoc]
    rfl

theorem value_down (t : TextArea) : t.down.value = t.value := by
  rw [down]
  split
  · rfl
  · next line below hbelow =>
    rw [value, value, lines_enter, lines, hbelow, List.append_assoc]
    rfl

theorem value_toStart (t : TextArea) : t.toStart.value = t.value := rfl

theorem value_toEnd (t : TextArea) : t.toEnd.value = t.value := by
  have hcurrent : t.toEnd.current = t.current := List.append_nil _
  rw [value, value, lines, lines, hcurrent]
  rfl

/-- A key keeps the limit, also one that types a line break as a character. -/
theorem within_handleKey (h : t.flat.Within t.limit) (k : Key) :
    (t.handleKey k).flat.Within t.limit := by
  have hvalue {t' : TextArea} (hvalue : t'.value = t.value) : t'.flat.Within t.limit :=
    fun hlimit => (congrArg List.length hvalue).trans_le (h hlimit)
  rw [handleKey]
  cases k.code with
  | char c =>
    dsimp only
    split
    · split
      · exact hvalue t.value_toStart
      · split
        · exact hvalue t.value_toEnd
        · exact h
    · rw [flat_insert]
      exact h.put c
  | enter =>
    dsimp only
    rw [flat_newline]
    exact h.put '\n'
  | backspace =>
    dsimp only
    rw [flat_backspace]
    exact h.backspace
  | delete =>
    dsimp only
    rw [flat_delete]
    exact h.delete
  | up => exact hvalue t.value_up
  | down => exact hvalue t.value_down
  | left =>
    dsimp only
    rw [flat_left]
    exact h
  | right =>
    dsimp only
    rw [flat_right]
    exact h
  | home => exact hvalue t.value_toStart
  | endKey => exact hvalue t.value_toEnd
  | _ => exact h

theorem within_foldl_handleKey (h : t.flat.Within t.limit) (keys : List Key) :
    (keys.foldl handleKey t).flat.Within t.limit := by
  induction keys generalizing t with
  | nil => exact h
  | cons k keys ih =>
    rw [List.foldl_cons, ← t.limit_handleKey k]
    refine ih ?_
    rw [limit_handleKey]
    exact within_handleKey h k

end TextArea

namespace Widget

open Modal (Palette)

/-- The key that is pressed in a call. -/
def Call.pressed? : Call → Option Key
  | .message _ (.key k) => if k.isPress = true then some k else none
  | _ => none

namespace Write

/-- Whether a key that is pressed goes to the text of an editor, and does not close the editor. -/
def isTyped (k : Key) : Bool := !(k.isCancel || decide (k.code = .char 'd' ∧ k.ctrl = true))

/-- The keys that reach the text of an editor in calls. -/
def typed (calls : List Call) : List Key := (calls.filterMap Call.pressed?).takeWhile isTyped

/-- Only the first row shown is changed to show the cursor. -/
theorem reveal_eq (w : Write) : ∃ top, w.reveal = { w with top } := by
  rw [reveal]
  split
  · exact ⟨_, rfl⟩
  · split
    · exact ⟨_, rfl⟩
    · exact ⟨w.top, rfl⟩

theorem reveal_spec (w : Write) : w.reveal.text = w.text ∧ w.reveal.phase = w.phase := by
  obtain ⟨top, htop⟩ := w.reveal_eq
  rw [htop]
  exact ⟨rfl, rfl⟩

theorem handleKey_typed {w : Write} {k : Key} (h : isTyped k = true) :
    (w.handleKey k).text = w.text.handleKey k ∧ (w.handleKey k).phase = w.phase := by
  rw [isTyped, Bool.not_eq_true', Bool.or_eq_false_iff, decide_eq_false_iff_not] at h
  rw [handleKey, if_neg (Bool.eq_false_iff.mp h.1), if_neg h.2]
  exact reveal_spec _

theorem handleKey_untyped {w : Write} {k : Key} (h : ¬ isTyped k = true) :
    (w.handleKey k).text = w.text ∧ (w.handleKey k).phase.isDone = true := by
  rw [isTyped, Bool.not_eq_true', Bool.not_eq_false, Bool.or_eq_true, decide_eq_true_iff] at h
  rw [handleKey]
  split
  · exact ⟨rfl, rfl⟩
  · next hcancel =>
    rw [if_pos (h.resolve_left hcancel)]
    exact ⟨rfl, rfl⟩

/-- A call in which no key is pressed. -/
theorem call_of_pressed?_eq_none (w : Write) {c : Call} (h : c.pressed? = none) :
    ∃ w' : Write, (Widget.write w).call c = .write w' ∧ w'.text = w.text ∧ w'.phase = w.phase := by
  cases c with
  | init => exact ⟨w, rfl, rfl, rfl⟩
  | resize width height => exact ⟨w.setSize width height, rfl, reveal_spec _⟩
  | message tree m =>
    refine ⟨w, ?_, rfl, rfl⟩
    by_cases hdone : (Widget.write w).isDone = true
    · exact congrArg Prod.fst (update_of_done hdone tree m)
    · rw [call, update_of_open hdone]
      cases m with
      | key k =>
        have hpress : ¬ k.isPress = true := fun hpress =>
          Option.some_ne_none k ((if_pos hpress).symm.trans h)
        dsimp only
        rw [if_neg hpress]
      | tick => rfl
      | finished output => rfl

/-- A call in which a key is pressed. -/
theorem call_of_pressed?_eq_some {w : Write} {c : Call} {k : Key} (h : c.pressed? = some k)
    (hopen : w.phase.isDone = false) : (Widget.write w).call c = .write (w.handleKey k) := by
  cases c with
  | init => exact absurd h.symm (Option.some_ne_none k)
  | resize width height => exact absurd h.symm (Option.some_ne_none k)
  | message tree m =>
    cases m with
    | key k' =>
      rw [Call.pressed?, Option.ite_none_right_eq_some, Option.some.injEq] at h
      obtain ⟨hpress, rfl⟩ := h
      have hopen' : ¬ (Widget.write w).isDone = true := Bool.eq_false_iff.mp hopen
      rw [call, update_of_open hopen']
      dsimp only
      rw [if_pos hpress]
      rfl
    | tick => exact absurd h.symm (Option.some_ne_none k)
    | finished output => exact absurd h.symm (Option.some_ne_none k)

/-- A closed editor keeps its text. -/
theorem after_of_done {w : Write} (hdone : w.phase.isDone = true) (calls : List Call) :
    ∃ w' : Write, (Widget.write w).after calls = .write w' ∧ w'.text = w.text := by
  refine (after_invariant (P := fun W => ∃ w' : Write, W = .write w' ∧ w'.text = w.text ∧
    w'.phase.isDone = true) ?_ ⟨w, rfl, rfl, hdone⟩ calls).imp fun w' h => ⟨h.1, h.2.1⟩
  rintro _ c ⟨w', rfl, htext, hdone'⟩
  cases c with
  | init => exact ⟨w', rfl, htext, hdone'⟩
  | message tree m =>
    have hstays := update_of_done (w := .write w') hdone' tree m
    exact ⟨w', congrArg Prod.fst hstays, htext, hdone'⟩
  | resize width height =>
    obtain ⟨htext', hphase⟩ := reveal_spec { w' with width, height }
    exact ⟨w'.setSize width height, rfl, htext'.trans htext, hphase ▸ hdone'⟩

/-- **The text of an editor is edited by the keys pressed until it is closed**, and by nothing
else. -/
theorem text_after {w : Write} (hopen : w.phase.isDone = false) (calls : List Call) :
    ∃ w' : Write, (Widget.write w).after calls = .write w' ∧
      w'.text = (typed calls).foldl TextArea.handleKey w.text := by
  induction calls generalizing w with
  | nil => exact ⟨w, rfl, rfl⟩
  | cons c calls ih =>
    rw [after_cons, typed, List.filterMap_cons]
    cases hc : c.pressed? with
    | none =>
      obtain ⟨w', hcall, htext, hphase⟩ := call_of_pressed?_eq_none w hc
      rw [hcall, ← htext]
      exact ih (hphase ▸ hopen)
    | some k =>
      rw [call_of_pressed?_eq_some hc hopen]
      dsimp only
      by_cases hk : isTyped k = true
      · obtain ⟨htext, hphase⟩ := handleKey_typed (w := w) hk
        rw [List.takeWhile_cons_of_pos hk, List.foldl_cons, ← htext]
        exact ih (hphase ▸ hopen)
      · obtain ⟨htext, hdone⟩ := handleKey_untyped (w := w) hk
        rw [List.takeWhile_cons_of_neg hk, List.foldl_nil, ← htext]
        exact after_of_done hdone calls

end Write

theorem Write.rowLine_row (w : Write) :
    w.rowLine w.text.row = w.numberSpans w.text.row ++
      (LineBuffer.Window.of w.text.before w.text.after w.field).spans
        (Style.fg w.palette.text) := by
  rw [rowLine, TextArea.getElem?_row]
  dsimp only
  rw [if_pos rfl]

/-- **Fields show their text faithfully.**  A line that keys have made of any text has its cursor
in it and keeps its limit, no key names a position that is not there, and in a field of any
width, masked or not, the window on it is one (`LineBuffer.Window.Frames`).  An editor, whatever
it has been told, has edited its text by positions that are there; so its cursor is in a line
that is there, and the row of this line shows it as a field does. -/
theorem fields_show_windows :
    (∀ (value : Text) (limit : Nat) (keys : List Key),
      let b := keys.foldl LineBuffer.handleKey (.ofText value limit)
      keys.foldlM LineBuffer.Indexed.handleKey (.ofText value limit) = some b.indexed ∧
      b.cursor ≤ b.length ∧ (0 < limit → b.length ≤ limit) ∧
      ∀ (width : Nat) (mask : Bool) (style : Style),
        LineBuffer.Drawn ((b.window width mask).spans style)
          (b.value.map (LineBuffer.shownChar mask)) b.cursor width) ∧
    ∀ (o : Options.Write) (p : Palette) (calls : List Call),
      ∃ (w : Write) (a : TextArea.Indexed) (line : Text),
        (Widget.write (.make o p)).after calls = .write w ∧
        TextArea.Indexed.edit o.value o.charLimit (Write.typed calls) = some a ∧
        w.text.indexed = a ∧
        a.lines[a.row]? = some line ∧ a.column ≤ line.length ∧
        (0 < o.charLimit → line.length ≤ o.charLimit) ∧
        ∃ spans, w.rowLine a.row = w.numberSpans a.row ++ spans ∧
          LineBuffer.Drawn spans line a.column w.field := by
  refine ⟨fun value limit keys => ?_, fun o p calls => ?_⟩
  · intro b
    have hbounded : b.Bounded limit := (LineBuffer.Bounded.ofText value limit).foldl_handleKey keys
    refine ⟨?_, b.cursor_le_length, hbounded.2, fun width mask style =>
      (b.window_frames width mask).drawn style⟩
    rw [← LineBuffer.indexed_ofText]
    exact LineBuffer.foldlM_indexed keys
  · obtain ⟨w, hw, htext⟩ := Write.text_after (w := .make o p) rfl calls
    have hedit := TextArea.edit_indexed o.value o.charLimit (Write.typed calls)
    have hstart := TextArea.Edited.ofText o.value o.charLimit
    have hwithin : w.text.flat.Within o.charLimit := by
      have h := TextArea.within_foldl_handleKey (t := .ofText o.value o.charLimit)
        (by rw [hstart.limit_eq]; exact hstart.within) (Write.typed calls)
      rw [hstart.limit_eq] at h
      exact htext ▸ h
    refine ⟨w, w.text.indexed, w.text.current, hw, ?_, rfl, w.text.getElem?_row, w.text.column_le,
      fun hlimit => ?_, _, w.rowLine_row,
      (LineBuffer.Window.frames_of w.text.before w.text.after w.field).drawn _⟩
    · exact hedit.trans (congrArg (some ·.indexed) htext.symm)
    · exact w.text.length_current_le.trans (hwithin (Nat.ne_of_gt hlimit))

end Widget
end TerminalDialogs
