import Mathlib.Data.List.Forall2
import TerminalDialogs.Proofs.Widget.Protocol

/-!
# A field that hides what is typed

Keys insert, remove and pass over the characters of a line without a look at them.  So the
*mask* of a line, in which a bullet stands for every character, is edited by the keys as the
line itself is, if bullets are typed instead of characters (`LineBuffer.masked_handleKey`).  A
field that hides its text draws its mask (`Input.view_masked`), and two fields with one mask
keep one mask as long as they are told the same but for the characters that are typed
(`Input.after_masked`).  That is all there is to secrecy: what can be seen is a function of
the mask, and the mask is a function of what may be known (`mask_hides`).

A character with Control is a command and not typed into the line, so it is not masked.
-/

namespace TerminalDialogs

/-! ## A line of text -/

/-- The key with a bullet for a character that is typed. -/
def Key.masked (k : Key) : Key :=
  match k.code with
  | .char _ => if k.ctrl then k else { k with code := .char '•' }
  | _ => k

theorem Key.masked_of_ctrl {k : Key} (h : k.ctrl = true) : k.masked = k := by
  rw [masked, h]
  split <;> rfl

theorem Key.masked_of_ne {k : Key} (h : ∀ c, k.code ≠ .char c) : k.masked = k := by
  rw [masked]
  split
  · next c hc => exact absurd hc (h c)
  · rfl

theorem Key.masked_of_typed {k : Key} {c : Char} (hcode : k.code = .char c)
    (hctrl : k.ctrl = false) : k.masked = { k with code := .char '•' } := by
  rw [masked, hcode]
  dsimp only
  rw [hctrl, if_neg Bool.false_ne_true]

namespace LineBuffer

variable {b : LineBuffer}

/-- The line with a bullet for every character. -/
def masked (b : LineBuffer) : LineBuffer :=
  { b with before := b.before.map (shownChar true), after := b.after.map (shownChar true) }

theorem value_masked : b.masked.value = b.value.map (shownChar true) :=
  List.map_append.symm

@[simp] theorem length_masked : b.masked.length = b.length := by
  rw [length, length, value_masked, List.length_map]

@[simp] theorem cursor_masked : b.masked.cursor = b.cursor := List.length_map _

theorem masked_ofText (value : Text) (limit : Nat) :
    (ofText value limit).masked = ofText (value.map (shownChar true)) limit := by
  by_cases h : limit = 0
  · simp [ofText, masked, h]
  · simp [ofText, masked, h, List.map_take]

theorem masked_insert (c : Char) : (b.insert c).masked = b.masked.insert '•' := by
  have hfull : b.masked.isFull = b.isFull := by
    rw [isFull, isFull, length_masked]
    rfl
  rw [insert, insert, hfull]
  split
  · rfl
  · simp [masked, shownChar]

theorem masked_backspace : b.backspace.masked = b.masked.backspace := by
  simp [backspace, masked, List.map_dropLast]

theorem masked_delete : b.delete.masked = b.masked.delete := by
  simp [delete, masked, List.map_tail]

theorem masked_left : b.left.masked = b.masked.left := by
  rw [left, left, masked, masked]
  dsimp only
  rw [List.map_dropLast, List.map_append, List.getLast?_map]
  cases b.before.getLast? <;> rfl

theorem masked_right : b.right.masked = b.masked.right := by
  rw [right, right, masked, masked]
  dsimp only
  rw [List.map_tail, List.map_append, List.head?_map]
  cases b.after.head? <;> rfl

theorem masked_toStart : b.toStart.masked = b.masked.toStart := by
  simp [toStart, masked, value]

theorem masked_toEnd : b.toEnd.masked = b.masked.toEnd := by
  simp [toEnd, masked, value]

theorem masked_clearToStart : b.clearToStart.masked = b.masked.clearToStart := rfl

/-- **The mask of a line is edited as the line is.** -/
theorem masked_handleKey (k : Key) : (b.handleKey k).masked = b.masked.handleKey k.masked := by
  rw [handleKey, handleKey, handleKey?, handleKey?]
  cases hcode : k.code
  case char c =>
    cases hctrl : k.ctrl with
    | true =>
      rw [Key.masked_of_ctrl hctrl, hcode, hctrl]
      dsimp only
      rw [if_pos rfl, if_pos rfl]
      split
      · exact masked_toStart
      · split
        · exact masked_toEnd
        · split
          · exact masked_clearToStart
          · rfl
    | false =>
      rw [Key.masked_of_typed hcode hctrl]
      dsimp only
      rw [hctrl, if_neg Bool.false_ne_true]
      exact masked_insert c
  all_goals
    rw [Key.masked_of_ne (by simp [hcode]), hcode]
    dsimp only [Option.getD_some, Option.getD_none]
  case backspace => exact masked_backspace
  case delete => exact masked_delete
  case left => exact masked_left
  case right => exact masked_right
  case home => exact masked_toStart
  case endKey => exact masked_toEnd

/-- The window on a hidden line is the window on its mask. -/
theorem window_masked (width : Nat) : b.masked.window width true = b.window width true := by
  have hshown : shownChar true ∘ shownChar true = shownChar true := rfl
  rw [window, window, masked]
  dsimp only
  rw [List.map_map, List.map_map, hshown]

end LineBuffer

namespace Widget

/-! ## The field -/

namespace Input

variable {w : Input}

/-- The field with a bullet for every character that it holds or held at first. -/
def masked (w : Input) : Input :=
  { w with
    options := { w.options with value := w.options.value.map (LineBuffer.shownChar true) }
    buffer := w.buffer.masked }

theorem masked_make (o : Options.Input) (p : Modal.Palette) :
    (make o p).masked = make { o with value := o.value.map (LineBuffer.shownChar true) } p := by
  rw [make, make, masked, LineBuffer.masked_ofText]

theorem masked_handleKey (k : Key) : (w.handleKey k).masked = w.masked.handleKey k.masked := by
  have hcancel : k.masked.isCancel = k.isCancel := by
    cases hcode : k.code
    case char c =>
      cases hctrl : k.ctrl with
      | true => rw [Key.masked_of_ctrl hctrl]
      | false =>
        rw [Key.masked_of_typed hcode hctrl]
        simp [Key.isCancel, hcode, hctrl]
    all_goals rw [Key.masked_of_ne (by simp [hcode])]
  have henter : k.masked.code = .enter ↔ k.code = .enter := by
    rw [Key.masked]
    split
    · next c hc => split <;> simp [hc]
    · rfl
  rw [handleKey, handleKey, hcancel]
  by_cases hdismissed : k.isCancel = true
  · rw [if_pos hdismissed, if_pos hdismissed]
    rfl
  · rw [if_neg hdismissed, if_neg hdismissed]
    by_cases hentered : k.code = .enter
    · rw [if_pos hentered, if_pos (henter.mpr hentered)]
      rfl
    · rw [if_neg hentered, if_neg (fun h => hentered (henter.mp h)), masked,
        LineBuffer.masked_handleKey]
      rfl

/-- **A field that hides its text looks like its mask.** -/
theorem view_masked (h : w.options.password = true) : w.masked.view = w.view := by
  have hempty : w.masked.buffer.value.isEmpty = w.buffer.value.isEmpty := by
    show w.buffer.masked.value.isEmpty = _
    rw [LineBuffer.value_masked, List.isEmpty_map]
  have hline : w.masked.fieldLine = w.fieldLine := by
    rw [fieldLine, fieldLine, hempty]
    show _ :: (if _ then _ else (w.buffer.masked.window w.room w.options.password).spans _) = _
    rw [h, LineBuffer.window_masked]
    rfl
  rw [view, view, hline]
  rfl

/-- The field after a message; only a key that is pressed does something, and only as long as the
field is open. -/
def told (w : Input) : Message → Input
  | .key k => if !w.phase.isDone && k.isPress then w.handleKey k else w
  | _ => w

theorem update_input (tree : Files.Tree) (m : Message) (w : Input) :
    ((Widget.input w).update tree m).1 = .input (w.told m) := by
  by_cases hdone : (Widget.input w).isDone = true
  · have hphase : w.phase.isDone = true := hdone
    rw [update_of_done hdone]
    cases m <;> simp [told, hphase]
  · have hphase : w.phase.isDone = false := Bool.eq_false_iff.mpr hdone
    rw [update_of_open hdone]
    rcases m with k | _ | output
    · cases hpress : k.isPress <;> simp [told, hphase, hpress, Widget.handleKey]
    · rfl
    · rfl

theorem options_told (m : Message) (w : Input) : (w.told m).options = w.options := by
  fun_cases told w m
  · rw [handleKey]
    split
    · rfl
    · split <;> rfl
  · rfl
  · rfl

end Input

/-! ## Histories -/

/-- The message with a bullet for a character that is typed. -/
def Message.masked : Message → Message
  | .key k => .key k.masked
  | m => m

/-- The call with a bullet for a character that is typed. -/
def Call.masked : Call → Call
  | .message tree m => .message tree m.masked
  | c => c

namespace Input

theorem masked_told (w : Input) (m : Message) : (w.told m).masked = w.masked.told m.masked := by
  rcases m with k | _ | output
  · have hpress : k.masked.isPress = k.isPress := by
      rw [Key.masked]
      split
      · split <;> rfl
      · rfl
    have hphase : w.masked.phase = w.phase := rfl
    rw [Message.masked, told, told, hpress, hphase]
    split
    · exact masked_handleKey k
    · rfl
  · rfl
  · rfl

/-- A call leads a field and its mask to a field and its mask. -/
theorem call_masked (w : Input) (c : Call) :
    ∃ w' : Input, (Widget.input w).call c = .input w' ∧
      (Widget.input w.masked).call c.masked = .input w'.masked ∧ w'.options = w.options := by
  rcases c with _ | ⟨tree, m⟩ | ⟨width, height⟩
  · exact ⟨w, rfl, rfl, rfl⟩
  · refine ⟨w.told m, update_input tree m w, ?_, w.options_told m⟩
    rw [masked_told]
    exact update_input tree m.masked w.masked
  · exact ⟨w.setSize width height, rfl, rfl, rfl⟩

/-- **A history leads a field and its mask to a field and its mask.** -/
theorem after_masked (w : Input) (calls : List Call) :
    ∃ w' : Input, (Widget.input w).after calls = .input w' ∧
      (Widget.input w.masked).after (calls.map Call.masked) = .input w'.masked ∧
      w'.options = w.options := by
  induction calls generalizing w with
  | nil => exact ⟨w, rfl, rfl, rfl⟩
  | cons c calls ih =>
    obtain ⟨mid, hcall, hmasked, hoptions⟩ := w.call_masked c
    obtain ⟨w', hafter, hafter', hoptions'⟩ := ih mid
    refine ⟨w', ?_, ?_, hoptions'.trans hoptions⟩
    · rw [after_cons, hcall, hafter]
    · rw [List.map_cons, after_cons, hmasked, hafter']

end Input

/-- Two calls that differ at most in the character that is typed, without Control. -/
inductive Call.Retyped : Call → Call → Prop
  | same (c : Call) : Retyped c c
  | typed (tree : Files.Tree) (k : Key) (c c' : Char) (hctrl : k.ctrl = false) :
      Retyped (.message tree (.key { k with code := .char c }))
        (.message tree (.key { k with code := .char c' }))

theorem Call.Retyped.masked_eq {c c' : Call} (h : Retyped c c') : c.masked = c'.masked := by
  cases h with
  | same => rfl
  | typed tree k c c' hctrl =>
    have hmasked (d : Char) : { k with code := .char d }.masked = { k with code := .char '•' } :=
      Key.masked_of_typed rfl hctrl
    rw [Call.masked, Call.masked, Message.masked, Message.masked, hmasked, hmasked]

theorem Call.map_masked_eq {calls calls' : List Call} (h : List.Forall₂ Retyped calls calls') :
    calls.map Call.masked = calls'.map Call.masked := by
  induction h with
  | nil => rfl
  | cons hc _ ih => rw [List.map_cons, List.map_cons, hc.masked_eq, ih]

/-- **A field that hides its text shows its length and the cursor at most.**  Two fields with
the same options but for the text at first, of which they have equally many characters, are
called in the same way but for characters that are typed.  After every call they look the same,
are done or dismissed together, and hold equally many characters around the cursor. -/
theorem mask_hides {o : Options.Input} (hpassword : o.password = true) {value : Text}
    (hlength : value.length = o.value.length) (p : Modal.Palette) {calls calls' : List Call}
    (h : List.Forall₂ Call.Retyped calls calls') (n : Nat) :
    ∃ a b : Input, (Widget.input (.make o p)).after (calls.take n) = .input a ∧
      (Widget.input (.make { o with value } p)).after (calls'.take n) = .input b ∧
      (Widget.input a).view = (Widget.input b).view ∧
      (Widget.input a).isDone = (Widget.input b).isDone ∧
      (Widget.input a).isCancelled = (Widget.input b).isCancelled ∧
      a.buffer.length = b.buffer.length ∧ a.buffer.cursor = b.buffer.cursor := by
  obtain ⟨a, ha, hmaskedA, hoptionsA⟩ := (Input.make o p).after_masked (calls.take n)
  obtain ⟨b, hb, hmaskedB, hoptionsB⟩ :=
    (Input.make { o with value } p).after_masked (calls'.take n)
  have hmade : (Input.make { o with value } p).masked = (Input.make o p).masked := by
    have hbullets : value.map (LineBuffer.shownChar true) =
        o.value.map (LineBuffer.shownChar true) := by
      refine List.ext_getElem (by simpa using hlength) fun i hi hi' => ?_
      simp [LineBuffer.shownChar]
    rw [Input.masked_make, Input.masked_make]
    dsimp only
    rw [hbullets]
  have hcalls := Call.map_masked_eq (List.forall₂_take n h)
  have hmasked : a.masked = b.masked := by
    rw [hmade, ← hcalls, hmaskedA] at hmaskedB
    exact Widget.input.inj hmaskedB
  have hview : a.view = b.view := by
    have hpasswordA : a.options.password = true := by
      rw [hoptionsA]
      exact hpassword
    have hpasswordB : b.options.password = true := by
      rw [hoptionsB]
      exact hpassword
    rw [← Input.view_masked hpasswordA, ← Input.view_masked hpasswordB, hmasked]
  have hphase : a.masked.phase = b.masked.phase := congrArg Input.phase hmasked
  have hbuffer : a.masked.buffer = b.masked.buffer := congrArg Input.buffer hmasked
  rw [Input.masked, Input.masked] at hphase hbuffer
  dsimp only at hphase hbuffer
  refine ⟨a, b, ha, hb, ?_, congrArg Phase.isDone hphase, congrArg Phase.isCancelled hphase, ?_, ?_⟩
  · show (if a.phase.isDone = true then [] else a.view) =
      if b.phase.isDone = true then [] else b.view
    rw [hphase, hview]
  · rw [← LineBuffer.length_masked, hbuffer, LineBuffer.length_masked]
  · rw [← LineBuffer.cursor_masked, hbuffer, LineBuffer.cursor_masked]

/-- Two passwords that have no character in common look alike. -/
theorem mask_hides_passwords :
    let o : Options.Input := { value := "ab".toList, password := true }
    let press (code : KeyCode) : Call := .message {} (.key { code })
    let calls (c d : Char) : List Call :=
      [.resize 9 4, press .left, press (.char c), press (.char d)]
    let w := (Widget.input (.make o .standalone)).after (calls 'c' 'd')
    let w' :=
      (Widget.input (.make { o with value := "xy".toList } .standalone)).after (calls 'é' ' ')
    List.Forall₂ Call.Retyped (calls 'c' 'd') (calls 'é' ' ') ∧
      w.value = .text "acdb".toList ∧ w'.value = .text "xé y".toList ∧ w.view = w'.view := by
  intro o press calls w w'
  have hcalls : List.Forall₂ Call.Retyped (calls 'c' 'd') (calls 'é' ' ') :=
    .cons (.same _) (.cons (.same _) (.cons (.typed {} { code := .enter } 'c' 'é' rfl)
      (.cons (.typed {} { code := .enter } 'd' ' ' rfl) .nil)))
  have hlength : "xy".toList.length = o.value.length := by decide
  obtain ⟨a, b, ha, hb, hview, -⟩ := mask_hides (o := o) rfl hlength .standalone hcalls 4
  refine ⟨hcalls, rfl, rfl, ?_⟩
  have hw : w = .input a := ha
  have hw' : w' = .input b := hb
  rw [hw, hw', hview]

end Widget
end TerminalDialogs
