import TerminalDialogs.Proofs.Session.PipedKeys

/-!
# When the viewport follows the output

While the command is running its output cannot be scrolled, so the viewport should be at
the end of the text.  It is taken there whenever the text is shown anew (`shows`); anything
else only keeps it from lying beyond the text.  The two together say where it is: no lower
than the end has been at any time since the text was shown last (`le_offset_iff`).

So the end of the text is lost when it moves down in the meantime, and there are two ways
for it to do so (`hides`): the window becomes lower, and output comes while a widget lies
over the screen.  Nothing brings the viewport back, neither the resize nor the end of the
widget, until the text is shown anew (`end_lost`).
-/

namespace TerminalDialogs

namespace Viewport

/-- The viewport has the lines of a text, or none yet of an empty one. -/
def Displays (v : Viewport) (text : Text) : Prop :=
  v.lines = (setContent {} text).lines ∨ v.lines = [] ∧ text = []

/-- A window on the end of a text. -/
def ofEnd (height : Nat) (text : Text) : Viewport := (setContent { height } text).toBottom

/-- A viewport at the end of its lines shows the end of the text. -/
theorem Displays.visible_eq {v : Viewport} {text : Text} (h : v.Displays text)
    (hend : v.offset = v.lastOffset) : v.visible = (ofEnd v.height text).visible := by
  rcases h with hlines | ⟨hlines, rfl⟩
  · rw [visible, visible, hend, lastOffset, hlines]
    rfl
  · have hblank : v.visible = List.replicate v.height [] := by
      rw [visible, hlines, List.drop_nil, List.take_nil]
      rfl
    rw [hblank]
    -- the text has a single row, which is as blank as the rows that fill the window
    cases v.height with
    | zero => rfl
    | succ n =>
      have hlines : (ofEnd (n + 1) []).lines = [[]] := rfl
      have htop : (ofEnd (n + 1) []).offset = 0 :=
        Nat.sub_eq_zero_of_le (Nat.succ_le_succ n.zero_le)
      have hheight : (ofEnd (n + 1) []).height = n + 1 := rfl
      rw [visible, hlines, htop, hheight, List.drop_zero, List.take_succ_cons, List.take_nil]
      rfl

theorem lastOffset_setSize_le {v : Viewport} {height : Nat} (h : v.height ≤ height) (width : Nat) :
    (v.setSize width height).lastOffset ≤ v.lastOffset :=
  Nat.sub_le_sub_left h v.lines.length

end Viewport

namespace Session

/-- What an event adds to the output. -/
def Event.printed : Event → Text
  | .output text => text
  | _ => []

/-! ## Since the text was shown last -/

section Since

variable {σ : Type} [IsSession σ]

/-- None of the events has the text shown anew. -/
def Unshown (shows : σ → Event → Bool) (s : σ) : List Event → Prop
  | [] => True
  | e :: events => shows s e = false ∧ Unshown shows (IsSession.handle s e).1 events

/-- Something has held after each of the events since the text was shown last, and right
after it was shown; if it never was, from the start. -/
def Since (shows : σ → Event → Bool) (s : σ) (events : List Event) (P : σ → Prop) : Prop :=
  ∀ past rest, events = past ++ rest → Unshown shows (after s past) rest → P (after s past)

/-- Nothing that may move the end of the text down has come since the text was shown last. -/
def Unhidden (shows hides : σ → Event → Bool) (s : σ) (events : List Event) : Prop :=
  ∀ past e rest, events = past ++ e :: rest → Unshown shows (after s (past ++ [e])) rest →
    hides (after s past) e = false

variable {shows hides : σ → Event → Bool} {s : σ} {events : List Event} {e : Event}

theorem unshown_concat :
    Unshown shows s (events ++ [e]) ↔
      Unshown shows s events ∧ shows (after s events) e = false := by
  induction events generalizing s with
  | nil => exact and_comm
  | cons e' events ih => rw [List.cons_append, Unshown, Unshown, ih, after_cons, and_assoc]

/-- Where a history can be cut that has got one event more. -/
theorem split_concat {past rest : List Event} :
    events ++ [e] = past ++ rest ↔
      (past = events ++ [e] ∧ rest = []) ∨
        ∃ rest', rest = rest' ++ [e] ∧ events = past ++ rest' := by
  constructor
  · intro h
    rcases List.eq_nil_or_concat' rest with rfl | ⟨rest', e', rfl⟩
    · exact Or.inl ⟨(h.trans (List.append_nil past)).symm, rfl⟩
    · rw [← List.append_assoc] at h
      obtain ⟨hevents, he⟩ := List.append_inj' h rfl
      exact Or.inr ⟨rest', he ▸ rfl, hevents⟩
  · rintro (⟨rfl, rfl⟩ | ⟨rest', rfl, rfl⟩)
    · exact (List.append_nil _).symm
    · exact List.append_assoc past rest' [e]

theorem Since.now {P : σ → Prop} (h : Since shows s events P) : P (after s events) :=
  h events [] (List.append_nil _).symm trivial

theorem since_nil {P : σ → Prop} : Since shows s [] P ↔ P s := by
  constructor
  · exact Since.now
  · rintro h past rest hsplit -
    obtain ⟨rfl, -⟩ := List.append_eq_nil_iff.mp hsplit.symm
    exact h

theorem since_concat {P : σ → Prop} :
    Since shows s (events ++ [e]) P ↔
      P (after s (events ++ [e])) ∧
        (shows (after s events) e = false → Since shows s events P) := by
  constructor
  · intro h
    constructor
    · exact h.now
    · intro hshows past rest hsplit hrest
      refine h past (rest ++ [e]) (split_concat.mpr (Or.inr ⟨rest, rfl, hsplit⟩)) ?_
      rw [unshown_concat, ← after_append, ← hsplit]
      exact ⟨hrest, hshows⟩
  · rintro ⟨hnow, hpast⟩ past rest hsplit hrest
    rcases split_concat.mp hsplit with ⟨rfl, -⟩ | ⟨rest, rfl, rfl⟩
    · exact hnow
    · rw [unshown_concat, ← after_append] at hrest
      exact hpast hrest.2 past rest rfl hrest.1

theorem unhidden_concat :
    Unhidden shows hides s (events ++ [e]) ↔
      hides (after s events) e = false ∧
        (shows (after s events) e = false → Unhidden shows hides s events) := by
  constructor
  · intro h
    constructor
    · exact h events e [] rfl trivial
    · intro hshows past e' rest hsplit hrest
      refine h past e' (rest ++ [e]) (split_concat.mpr (Or.inr ⟨e' :: rest, rfl, hsplit⟩)) ?_
      rw [unshown_concat, ← after_append, List.append_assoc, List.singleton_append, ← hsplit]
      exact ⟨hrest, hshows⟩
  · rintro ⟨hnow, hpast⟩ past e' rest hsplit hrest
    rcases split_concat.mp hsplit with ⟨-, hnil⟩ | ⟨rest', hrest', rfl⟩
    · cases hnil
    · cases rest' with
      | nil =>
        obtain ⟨rfl, rfl⟩ := List.cons.inj hrest'
        rw [List.append_nil] at hnow
        exact hnow
      | cons e'' rest' =>
        obtain ⟨rfl, rfl⟩ : e' = e'' ∧ rest = rest' ++ [e] := List.cons.inj hrest'
        rw [unshown_concat, ← after_append, List.append_assoc, List.singleton_append] at hrest
        exact hpast hrest.2 past e' rest' rfl hrest.1

end Since

/-! ## Any kind of session -/

section Scrolled

variable {σ : Type} [IsSession σ]

/-- How the viewport of a kind of session moves while the command is running: events that
have the text shown take it to the end, the others keep it within the text, and only some of
these make the end move down. -/
structure Scrolled (viewport : σ → Viewport) (text : σ → Text) (running : σ → Prop)
    (shows hides : σ → Event → Bool) : Prop where
  runs : ∀ s e, running s → e.isExit = false → running (IsSession.handle s e).1
  displayed : ∀ s e, running s → e.isExit = false → (viewport s).Displays (text s) →
    (viewport (IsSession.handle s e).1).Displays (text (IsSession.handle s e).1)
  shown : ∀ s e, running s → shows s e = true →
    (viewport (IsSession.handle s e).1).offset = (viewport (IsSession.handle s e).1).lastOffset
  unshown : ∀ s e, running s → e.isExit = false → shows s e = false →
    (viewport s).offset ≤ (viewport s).lastOffset →
      (viewport (IsSession.handle s e).1).offset =
        min (viewport s).offset (viewport (IsSession.handle s e).1).lastOffset
  covered : ∀ s e, running s → e.isExit = false → shows s e = false → hides s e = false →
    (viewport (IsSession.handle s e).1).lastOffset ≤ (viewport s).lastOffset

namespace Scrolled

variable {viewport : σ → Viewport} {text : σ → Text} {running : σ → Prop}
  {shows hides : σ → Event → Bool} {s : σ} {events : List Event}

theorem running_after (h : Scrolled viewport text running shows hides) (hs : running s)
    (hevents : ∀ e ∈ events, e.isExit = false) : running (after s events) := by
  induction events generalizing s with
  | nil => exact hs
  | cons e events ih =>
    rw [List.forall_mem_cons] at hevents
    exact ih (h.runs s e hs hevents.1) hevents.2

theorem displays_after (h : Scrolled viewport text running shows hides) (hs : running s)
    (hstart : (viewport s).Displays (text s)) (hevents : ∀ e ∈ events, e.isExit = false) :
    (viewport (after s events)).Displays (text (after s events)) := by
  induction events generalizing s with
  | nil => exact hstart
  | cons e events ih =>
    rw [List.forall_mem_cons] at hevents
    exact ih (h.runs s e hs hevents.1) (h.displayed s e hs hevents.1 hstart) hevents.2

/-- The viewport is no lower than the end has been since the text was shown last. -/
theorem le_offset_iff (h : Scrolled viewport text running shows hides) (hs : running s)
    (hstart : (viewport s).offset = (viewport s).lastOffset)
    (hevents : ∀ e ∈ events, e.isExit = false) (n : Nat) :
    n ≤ (viewport (after s events)).offset ↔
      Since shows s events fun s' => n ≤ (viewport s').lastOffset := by
  induction events using List.reverseRecOn generalizing n with
  | nil => rw [after_nil, hstart, since_nil]
  | append_singleton events e ih =>
    rw [List.forall_mem_append, List.forall_mem_singleton] at hevents
    have hrun := h.running_after hs hevents.1
    have hnext : after s (events ++ [e]) = (IsSession.handle (after s events) e).1 :=
      after_append s events [e]
    rw [since_concat]
    cases hshows : shows (after s events) e with
    | true =>
      rw [hnext, h.shown _ e hrun hshows]
      exact (and_iff_left fun hfalse => nomatch hfalse).symm
    | false =>
      -- the end where it is now is one of those that the viewport is no lower than
      have hwithin : (viewport (after s events)).offset ≤ (viewport (after s events)).lastOffset :=
        Since.now ((ih hevents.1 _).mp (Nat.le_refl _))
      rw [hnext, h.unshown _ e hrun hevents.2 hshows hwithin, Nat.le_min, ih hevents.1, and_comm]
      exact and_congr_right fun _ => ⟨fun hpast _ => hpast, fun hpast => hpast rfl⟩

theorem offset_le_lastOffset (h : Scrolled viewport text running shows hides) (hs : running s)
    (hstart : (viewport s).offset = (viewport s).lastOffset)
    (hevents : ∀ e ∈ events, e.isExit = false) :
    (viewport (after s events)).offset ≤ (viewport (after s events)).lastOffset :=
  Since.now ((h.le_offset_iff hs hstart hevents _).mp (Nat.le_refl _))

/-- The end of the text is in the window, unless it has moved down since the text was shown
last. -/
theorem atBottom_iff (h : Scrolled viewport text running shows hides) (hs : running s)
    (hstart : (viewport s).offset = (viewport s).lastOffset)
    (hevents : ∀ e ∈ events, e.isExit = false) :
    (viewport (after s events)).atBottom = true ↔
      Since shows s events fun s' =>
        (viewport (after s events)).lastOffset ≤ (viewport s').lastOffset := by
  rw [Viewport.atBottom, decide_eq_true_eq, h.le_offset_iff hs hstart hevents]

/-- If nothing that can move the end down has come since the text was shown last, the end of
the text is in the window. -/
theorem atBottom_of_unhidden (h : Scrolled viewport text running shows hides) (hs : running s)
    (hstart : (viewport s).offset = (viewport s).lastOffset)
    (hevents : ∀ e ∈ events, e.isExit = false) (hhides : Unhidden shows hides s events) :
    (viewport (after s events)).atBottom = true := by
  rw [Viewport.atBottom, decide_eq_true_eq]
  induction events using List.reverseRecOn with
  | nil => exact Nat.le_of_eq hstart.symm
  | append_singleton events e ih =>
    rw [List.forall_mem_append, List.forall_mem_singleton] at hevents
    have hrun := h.running_after hs hevents.1
    have hnext : after s (events ++ [e]) = (IsSession.handle (after s events) e).1 :=
      after_append s events [e]
    obtain ⟨hquiet, hpast⟩ := unhidden_concat.mp hhides
    rw [hnext]
    cases hshows : shows (after s events) e with
    | true => exact Nat.le_of_eq (h.shown _ e hrun hshows).symm
    | false =>
      have hcovered := h.covered _ e hrun hevents.2 hshows hquiet
      rw [h.unshown _ e hrun hevents.2 hshows (h.offset_le_lastOffset hs hstart hevents.1)]
      exact Nat.le_min.mpr ⟨Nat.le_trans hcovered (ih hevents.1 (hpast hshows)), Nat.le_refl _⟩

/-- Where the viewport is while the command is running, and what is seen. -/
theorem follows (h : Scrolled viewport text running shows hides) (hs : running s)
    (hstart : (viewport s).offset = (viewport s).lastOffset)
    (htext : (viewport s).Displays (text s)) (hevents : ∀ e ∈ events, e.isExit = false) :
    let s' := after s events
    (Unhidden shows hides s events → (viewport s').atBottom = true) ∧
      ((viewport s').atBottom = true ↔
        Since shows s events fun s'' => (viewport s').lastOffset ≤ (viewport s'').lastOffset) ∧
      ((viewport s').atBottom = true →
        (viewport s').visible = (Viewport.ofEnd (viewport s').height (text s')).visible) := by
  intro s'
  have hwithin := h.offset_le_lastOffset hs hstart hevents
  refine ⟨h.atBottom_of_unhidden hs hstart hevents, h.atBottom_iff hs hstart hevents, ?_⟩
  intro hend
  rw [Viewport.atBottom, decide_eq_true_eq] at hend
  exact (h.displays_after hs htext hevents).visible_eq (Nat.le_antisymm hwithin hend)

end Scrolled
end Scrolled

/-! ## Both kinds of sessions -/

namespace Hosted

/-- Output has the text shown, unless a widget lies over the screen. -/
def shows (s : Hosted) : Event → Bool
  | .output _ => s.stage == .executing
  | _ => false

/-- The end moves down when the window becomes lower, and when output comes under a
widget. -/
def hides (s : Hosted) : Event → Bool
  | .output _ => s.stage == .showingWidget
  | .resize _ height => outputRows height < s.viewport.height
  | _ => false

/-- **What can happen while the command is running**: output, a new size of the window, or
something that leaves the text and its window alone. -/
theorem handle_cases {s : Hosted} (hstage : s.stage ≠ .completed) {e : Event}
    (he : e.isExit = false) :
    (e.isOutput = false ∧ (s.handle e).1.viewport = s.viewport ∧
      (s.handle e).1.content = s.content) ∨
      (∃ text, e = .output text) ∨ ∃ width height, e = .resize width height := by
  cases hquiet : e.isOutput with
  | false =>
    obtain ⟨stage, generation, shown, input, finished, offset, -, hoffset, hnext⟩ :=
      s.handle_eq hquiet
    rw [hnext, hoffset.resolve_right hstage]
    exact Or.inl ⟨rfl, rfl, rfl⟩
  | true =>
    cases e with
    | output text => exact Or.inr (Or.inl ⟨text, rfl⟩)
    | resize width height => exact Or.inr (Or.inr ⟨width, height, rfl⟩)
    | exited outcome => cases he
    | _ => cases hquiet

theorem viewport_write (s : Hosted) (text : Text) :
    (s.write text).viewport =
      if s.stage = .executing then (s.viewport.setContent (s.content ++ text)).toBottom
      else s.viewport.setContent (s.content ++ text) := rfl

theorem displays_write (s : Hosted) (text : Text) :
    (s.write text).viewport.Displays (s.write text).content := by
  rw [viewport_write]
  split
  · exact Or.inl rfl
  · exact Or.inl rfl

theorem scrolled : Scrolled viewport content
    (fun s => s.standing.Consistent ∧ s.stage ≠ .completed) shows hides where
  runs s e hs he := by
    refine ⟨after_consistent hs.1 [e], ?_⟩
    intro hcompleted
    rcases (handle_completed_iff hs.1 e).mp hcompleted with hstage | hexit
    · exact hs.2 hstage
    · exact Bool.false_ne_true (he.symm.trans hexit)
  displayed s e hs he hdisplays := by
    rcases handle_cases hs.2 he with ⟨-, hviewport, hcontent⟩ | ⟨text, rfl⟩ | ⟨width, height, rfl⟩
    · show (s.handle e).1.viewport.Displays (s.handle e).1.content
      rw [hviewport, hcontent]
      exact hdisplays
    · exact s.displays_write text
    · exact hdisplays
  shown s e hs hshows := by
    cases e with
    | output text =>
      show (s.write text).viewport.offset = (s.write text).viewport.lastOffset
      rw [viewport_write, if_pos (beq_iff_eq.mp hshows)]
      rfl
    | _ => cases hshows
  unshown s e hs he hshows hwithin := by
    rcases handle_cases hs.2 he with ⟨-, hviewport, -⟩ | ⟨text, rfl⟩ | ⟨width, height, rfl⟩
    · show (s.handle e).1.viewport.offset = min _ (s.handle e).1.viewport.lastOffset
      rw [hviewport, Nat.min_eq_left hwithin]
    · show (s.write text).viewport.offset = min _ (s.write text).viewport.lastOffset
      rw [viewport_write, if_neg (beq_eq_false_iff_ne.mp hshows)]
      rfl
    · rfl
  covered s e hs he hshows hhides := by
    rcases handle_cases hs.2 he with ⟨-, hviewport, -⟩ | ⟨text, rfl⟩ | ⟨width, height, rfl⟩
    · show (s.handle e).1.viewport.lastOffset ≤ _
      rw [hviewport]
    · -- in each of the two stages output is shown, or hides the end
      cases hstage : s.stage with
      | executing => exact absurd hstage (beq_eq_false_iff_ne.mp hshows)
      | showingWidget => exact absurd hstage (beq_eq_false_iff_ne.mp hhides)
      | completed => exact absurd hstage hs.2
    · exact s.viewport.lastOffset_setSize_le (Nat.not_lt.mp (of_decide_eq_false hhides)) width

theorem content_handle {s : Hosted} (hstage : s.stage ≠ .completed) {e : Event}
    (he : e.isExit = false) : (s.handle e).1.content = s.content ++ e.printed := by
  rcases handle_cases hstage he with ⟨hquiet, -, hcontent⟩ | ⟨text, rfl⟩ | ⟨width, height, rfl⟩
  · have hnothing : e.printed = [] := by
      cases e with
      | output text => cases hquiet
      | _ => rfl
    rw [hcontent, hnothing, List.append_nil]
  · rfl
  · exact (List.append_nil _).symm

/-- The text is all the output, one piece after the other. -/
theorem content_after {s : Hosted} (hs : s.standing.Consistent ∧ s.stage ≠ .completed)
    {events : List Event} (hevents : ∀ e ∈ events, e.isExit = false) :
    (after s events).content = s.content ++ events.flatMap Event.printed := by
  induction events generalizing s with
  | nil => exact (List.append_nil _).symm
  | cons e events ih =>
    rw [List.forall_mem_cons] at hevents
    have hnow : (IsSession.handle s e).1.content = s.content ++ e.printed :=
      content_handle hs.2 hevents.1
    rw [after_cons, ih (scrolled.runs s e hs hevents.1) hevents.2, hnow, List.flatMap_cons,
      List.append_assoc]

end Hosted

namespace Piped

/-- Output has the text shown, and so does a key that is handled. -/
def shows (s : Piped) : Event → Bool
  | .output _ => true
  | .key k => s.handles k
  | _ => false

/-- The end moves down when the window becomes lower. -/
def hides (s : Piped) : Event → Bool
  | .resize _ height => outputRows height < s.viewport.height
  | _ => false

/-- All the text there is to show. -/
def text (s : Piped) : Text := s.transcript.display

theorem offset_refresh {s : Piped} (h : s.stage = .executing) :
    s.refresh.viewport.offset = s.refresh.viewport.lastOffset := by
  rw [refresh, if_pos h]
  rfl

/-- **What can happen while the command is running**: the text is shown anew, the window gets
a new size, or the text and its window are left alone. -/
theorem handle_cases {s : Piped} (hstage : s.stage = .executing) {e : Event}
    (he : e.isExit = false) :
    (s.shows e = false ∧ (s.handle e).1.viewport = s.viewport ∧ (s.handle e).1.text = s.text) ∨
      (s.shows e = true ∧ ∃ s' : Piped, s'.stage = .executing ∧ (s.handle e).1 = s'.refresh) ∨
      ∃ width height, e = .resize width height := by
  have hrunning : s.stage ≠ .completed := fun hended => Stage.noConfusion (hstage.symm.trans hended)
  cases e with
  | key k =>
    rcases s.handleKey_cases k with ⟨hended, -⟩ |
      ⟨-, hnot, input, finished, effects, -, -, hkey⟩ | ⟨-, hhandles, bytes?, transcript, -, hkey⟩
    · exact absurd hended hrunning
    · rw [handle, hkey]
      exact Or.inl ⟨hnot, rfl, rfl⟩
    · obtain ⟨input, -, hsent⟩ := s.continues_sent bytes?
      rw [hsent] at hkey
      refine Or.inr (Or.inl ⟨hhandles, { s with input, transcript }, hstage, ?_⟩)
      rw [handle, hkey]
  | resize width height => exact Or.inr (Or.inr ⟨width, height, rfl⟩)
  | output text =>
    exact Or.inr (Or.inl ⟨rfl, { s with transcript := s.transcript.output text }, hstage, rfl⟩)
  | exited outcome => cases he
  | requested ticket => exact Or.inl ⟨rfl, rfl, rfl⟩
  | widget generation m => exact Or.inl ⟨rfl, rfl, rfl⟩

theorem scrolled : Scrolled viewport text (fun s => s.stage = .executing) shows hides where
  runs s e hs he := (s.stage_handle he).trans hs
  displayed s e hs he hdisplays := by
    rcases handle_cases hs he with ⟨-, hviewport, htext⟩ | ⟨-, s', -, hnext⟩ | ⟨width, height, rfl⟩
    · show (s.handle e).1.viewport.Displays (s.handle e).1.text
      rw [hviewport, htext]
      exact hdisplays
    · show (s.handle e).1.viewport.Displays (s.handle e).1.text
      rw [hnext]
      exact Or.inl s'.refresh_lines
    · exact hdisplays
  shown s e hs hshows := by
    have he : e.isExit = false := by
      cases e with
      | exited outcome => cases hshows
      | _ => rfl
    rcases handle_cases hs he with ⟨hnot, -⟩ | ⟨-, s', hs', hnext⟩ | ⟨width, height, rfl⟩
    · exact absurd (hnot.symm.trans hshows) Bool.false_ne_true
    · show (s.handle e).1.viewport.offset = (s.handle e).1.viewport.lastOffset
      rw [hnext]
      exact offset_refresh hs'
    · cases hshows
  unshown s e hs he hshows hwithin := by
    rcases handle_cases hs he with ⟨-, hviewport, -⟩ | ⟨hshown, -⟩ | ⟨width, height, rfl⟩
    · show (s.handle e).1.viewport.offset = min _ (s.handle e).1.viewport.lastOffset
      rw [hviewport, Nat.min_eq_left hwithin]
    · exact absurd (hshows.symm.trans hshown) Bool.false_ne_true
    · rfl
  covered s e hs he hshows hhides := by
    rcases handle_cases hs he with ⟨-, hviewport, -⟩ | ⟨hshown, -⟩ | ⟨width, height, rfl⟩
    · show (s.handle e).1.viewport.lastOffset ≤ _
      rw [hviewport]
    · exact absurd (hshows.symm.trans hshown) Bool.false_ne_true
    · exact s.viewport.lastOffset_setSize_le (Nat.not_lt.mp (of_decide_eq_false hhides)) width

/-- A session whose command is running has not heard of its end. -/
theorem isExit_of_executing {s : Piped} {events : List Event}
    (h : (after s events).stage = .executing) : ∀ e ∈ events, e.isExit = false := by
  induction events generalizing s with
  | nil => exact fun e he => nomatch he
  | cons e events ih =>
    refine List.forall_mem_cons.mpr ⟨?_, ih h⟩
    cases e with
    | exited outcome =>
      have hended : (after (s.complete outcome).1 events).stage = .completed :=
        after_invariant (P := fun s : Piped => s.stage = .completed)
          (fun _ e hs => (handle_completed hs e).1) rfl events
      exact Stage.noConfusion (h.symm.trans hended)
    | _ => rfl

end Piped

/-- **The viewport follows the output** of a command that is running, as far as the end of
the text has not moved down since the text was shown last.  Whatever happened so far,

* if since then the window has not become lower and no output has come under a widget, the
  end of the text is in the window;
* more exactly, it is in the window if and only if the end has been as low as it is now ever
  since;
* and if it is, what is seen are the last lines of the text, which is all the output, and
  over pipes what was entered and typed as well. -/
theorem output_followed (caption : Caption) (events : List Event) :
    (∀ theme files input,
      let start := Hosted.make caption theme files input
      let s := after start events
      s.stage = .executing →
        (Unhidden Hosted.shows Hosted.hides start events → s.viewport.atBottom = true) ∧
        (s.viewport.atBottom = true ↔ Since Hosted.shows start events fun past =>
          s.viewport.lastOffset ≤ past.viewport.lastOffset) ∧
        (s.viewport.atBottom = true → s.viewport.visible =
          (Viewport.ofEnd s.viewport.height (events.flatMap Event.printed)).visible)) ∧
    (∀ echo input,
      let start := Piped.make caption echo input
      let s := after start events
      s.stage = .executing →
        (Unhidden Piped.shows Piped.hides start events → s.viewport.atBottom = true) ∧
        (s.viewport.atBottom = true ↔ Since Piped.shows start events fun past =>
          s.viewport.lastOffset ≤ past.viewport.lastOffset) ∧
        (s.viewport.atBottom = true →
          s.viewport.visible = (Viewport.ofEnd s.viewport.height s.text).visible)) := by
  constructor
  · intro theme files input start s hstage
    have hstart : start.standing.Consistent ∧ start.stage ≠ .completed :=
      ⟨Hosted.make_consistent caption theme files input, Stage.noConfusion⟩
    have hevents : ∀ e ∈ events, e.isExit = false := by
      by_contra hexit
      push Not at hexit
      have hended : s.stage = .completed :=
        (Hosted.completed_iff hstart.1 hstart.2 events).mpr (by simpa using hexit)
      exact Stage.noConfusion (hstage.symm.trans hended)
    have htext : s.content = events.flatMap Event.printed := Hosted.content_after hstart hevents
    rw [← htext]
    exact Hosted.scrolled.follows hstart rfl (Or.inr ⟨rfl, rfl⟩) hevents
  · intro echo input start s hstage
    exact Piped.scrolled.follows rfl rfl (Or.inr ⟨rfl, rfl⟩) (Piped.isExit_of_executing hstage)

/-- The window becomes lower, and the next output is seen in it. -/
theorem output_followed_lowered :
    let theme : Modal.Theme := ⟨⟨26, 26, 46⟩, ⟨124, 58, 237⟩, ⟨124, 58, 237⟩⟩
    let before : List Event := [.resize 20 6, .output "a\nb\nc\nd\ne".toList, .resize 20 5]
    let events := before ++ [.output "\nf".toList]
    let hosted := after (Hosted.make {} theme {} .working) events
    let piped := after (Piped.make {} true .working) events
    hosted.stage = .executing ∧ hosted.viewport.atBottom = true ∧
      hosted.viewport.visible = [['e'], ['f']] ∧ piped.stage = .executing ∧
      piped.viewport.atBottom = true ∧ piped.viewport.visible = [['e'], ['f']] := by
  intro theme before events hosted piped
  obtain ⟨hhosted, hpiped⟩ := output_followed {} events
  obtain ⟨hend, -, hseen⟩ := hhosted theme {} .working rfl
  obtain ⟨hend', -, hseen'⟩ := hpiped true .working rfl
  have hbottom := hend (unhidden_concat.mpr ⟨rfl, fun hshows => nomatch hshows⟩)
  have hbottom' := hend' (unhidden_concat.mpr ⟨rfl, fun hshows => nomatch hshows⟩)
  exact ⟨rfl, hbottom, (hseen hbottom).trans (by decide), rfl, hbottom',
    (hseen' hbottom').trans (by decide)⟩

/-- The last line is out of sight, though the command is running, after the window has become
lower, and after a widget is closed under which there was output. -/
theorem end_lost :
    let theme : Modal.Theme := ⟨⟨26, 26, 46⟩, ⟨124, 58, 237⟩, ⟨124, 58, 237⟩⟩
    let output : Event := .output "a\nb\nc\nd\ne".toList
    let question : Event := .requested
      { number := 7, request := { component := "confirm".toList, options := .object [] } }
    let lowered : List Event := [.resize 20 6, output, .resize 20 5]
    let covered : List Event := [.resize 20 6, question, output, .key { code := .escape }]
    let start := Hosted.make {} theme {} .working
    let piped := after (Piped.make {} true .working) lowered
    (after start lowered).stage = .executing ∧
      (after start lowered).viewport.visible = [['c'], ['d']] ∧
      (after start lowered).viewport.atBottom = false ∧
      (after start covered).stage = .executing ∧
      (after start covered).viewport.visible = [['a'], ['b'], ['c']] ∧
      (after start covered).viewport.atBottom = false ∧
      piped.stage = .executing ∧ piped.viewport.visible = [['c'], ['d']] ∧
      piped.viewport.atBottom = false := by
  decide

end Session
end TerminalDialogs
