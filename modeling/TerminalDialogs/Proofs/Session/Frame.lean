import TerminalDialogs.Proofs.Screen.Paint
import TerminalDialogs.Proofs.Session.History
import TerminalDialogs.Proofs.Text.Rows
import TerminalDialogs.Proofs.Viewport
import TerminalDialogs.Session.Hosted
import TerminalDialogs.Session.Piped

/-!
# Frames have the size of the screen

After any events, what a session shows has as many rows as the screen, and every
row is as wide as the screen (`fillsScreen_after`).

A frame is a caption, a rule, the lines in the viewport and a status line, each
fitted to the width of the screen.  So there are two things to know.  The
viewport has the height that was left by the last resize, and its lines hold no
line feeds: this is what events keep, and both kinds of sessions keep it
(`Surfaced`).  Most events cannot touch either in a session in a terminal of its
own (`Hosted.handle_eq`).  And a line that is fitted to a width has that width,
which fails for one that ends inside of an escape sequence: what fills the line
up is then read as a part of the sequence (`dangling_sequence_overflows`).
-/

namespace TerminalDialogs

open Styled (Whole)

/-! ## Viewports -/

namespace Viewport

/-- No line holds a line feed. -/
def Tidy (v : Viewport) : Prop := ∀ line ∈ v.lines, '\n' ∉ line

theorem mem_of_mem_overwritten {c : Char} {line : Text} (h : c ∈ overwritten line) : c ∈ line := by
  rw [overwritten, List.mem_reverse] at h
  have hdrop : c ∈ Text.dropReturn line :=
    List.mem_reverse.mp ((List.takeWhile_sublist _).subset h)
  rw [Text.dropReturn] at hdrop
  split at hdrop
  · exact (List.dropLast_sublist _).subset hdrop
  · exact hdrop

theorem tidy_setContent (v : Viewport) (content : Text) : (v.setContent content).Tidy := by
  intro line hline
  obtain ⟨row, hrow, rfl⟩ := List.mem_map.mp hline
  exact fun h => Text.notMem_of_mem_rows hrow (mem_of_mem_overwritten h)

theorem Tidy.notMem_of_mem_visible {v : Viewport} (h : v.Tidy) {line : Text}
    (hline : line ∈ v.visible) : '\n' ∉ line := by
  rw [visible, List.mem_append] at hline
  rcases hline with hline | hline
  · exact h line (List.mem_of_mem_drop (List.mem_of_mem_take hline))
  · rw [List.eq_of_mem_replicate hline]
    exact List.not_mem_nil

end Viewport

namespace Session

/-! ## One frame -/

/-- A view fills a screen of the given size exactly. -/
def FillsScreen (width height : Nat) (view : Text) : Prop :=
  (Text.rows view).length = height ∧ ∀ row ∈ Text.rows view, Styled.width row = width

instance (width height : Nat) (view : Text) : Decidable (FillsScreen width height view) :=
  inferInstanceAs (Decidable (_ ∧ _))

theorem notMem_paint_lineFeed {s : Text} (h : '\n' ∉ s) (style : Screen.Style) :
    '\n' ∉ Screen.paint s style :=
  Screen.notMem_paint (by decide) (by decide) h style

/-- The status line is put together from painted texts, the last of which says
how far the output has been scrolled. -/
theorem statusLine_eq (outcome : Option Outcome) (v : Viewport) :
    ∃ status hint style style' style'',
      statusLine outcome v = Screen.paint status style ++ Screen.paint hint style' ++
        Screen.paint ("  ".toList ++ Text.padLeft 3 (Text.ofNat v.progress.percent) ++ ['%'])
          style'' ∧
      Styled.esc ∉ status ++ hint ∧ '\n' ∉ status ++ hint := by
  rcases outcome with _ | o
  · exact ⟨_, _, _, _, _, rfl, by decide, by decide⟩
  · by_cases h : o.isSuccess = true
    · rw [statusLine, if_pos h]
      exact ⟨_, _, _, _, _, rfl, by decide, by decide⟩
    · rw [statusLine, if_neg h]
      exact ⟨_, _, _, _, _, rfl, by decide, by decide⟩

theorem notMem_percent {c : Char} (hdigit : c.isDigit = false) (hblank : c ≠ ' ') (hsign : c ≠ '%')
    (n : Nat) : c ∉ "  ".toList ++ Text.padLeft 3 (Text.ofNat n) ++ ['%'] := by
  have hblanks (k : Nat) : c ∉ Text.blanks k := fun h => hblank (List.eq_of_mem_replicate h)
  simp only [Text.padLeft, List.mem_append, not_or]
  exact ⟨⟨hblanks 2, hblanks _, Text.notMem_ofNat hdigit n⟩,
    fun h => hsign (List.mem_singleton.mp h)⟩

theorem whole_statusLine (outcome : Option Outcome) (v : Viewport) :
    Whole (statusLine outcome v) := by
  obtain ⟨status, hint, style, style', style'', heq, hesc, -⟩ := statusLine_eq outcome v
  rw [List.mem_append, not_or] at hesc
  have hpercent : Styled.esc ∉
      "  ".toList ++ Text.padLeft 3 (Text.ofNat v.progress.percent) ++ ['%'] :=
    notMem_percent (by decide) (by decide) (by decide) _
  rw [heq]
  exact ((Screen.whole_paint (Styled.whole_of_visible hesc.1) style).append
    (Screen.whole_paint (Styled.whole_of_visible hesc.2) style')).append
    (Screen.whole_paint (Styled.whole_of_visible hpercent) style'')

theorem lineFeed_notMem_statusLine (outcome : Option Outcome) (v : Viewport) :
    '\n' ∉ statusLine outcome v := by
  obtain ⟨status, hint, style, style', style'', heq, -, hfeed⟩ := statusLine_eq outcome v
  rw [List.mem_append, not_or] at hfeed
  rw [heq, List.mem_append, List.mem_append, not_or, not_or]
  exact ⟨⟨notMem_paint_lineFeed hfeed.1 style, notMem_paint_lineFeed hfeed.2 style'⟩,
    notMem_paint_lineFeed (notMem_percent (by decide) (by decide) (by decide) _) style''⟩

/-- The line below the caption. -/
def rule (width : Nat) : Text :=
  Screen.paint (List.replicate width '-') (Screen.Style.fg Modal.Palette.standalone.rule)

theorem notMem_dashes {c : Char} (h : c ≠ '-') (n : Nat) : c ∉ List.replicate n '-' := fun hc =>
  h (List.eq_of_mem_replicate hc)

theorem width_rule (n : Nat) : Styled.width (rule n) = n := by
  have hesc : Styled.esc ∉ List.replicate n '-' := notMem_dashes (by decide) n
  rw [rule, Screen.width_paint (Styled.whole_of_visible hesc), Styled.width_of_visible hesc,
    List.length_replicate]

theorem lineFeed_notMem_rule (n : Nat) : '\n' ∉ rule n :=
  notMem_paint_lineFeed (notMem_dashes (by decide) n) _

/-- The rows of a frame. -/
theorem rows_frame {c : Caption} {width : Nat} {v : Viewport}
    (hcaption : '\n' ∉ Styled.fit width c.line) (hv : v.Tidy) (outcome : Option Outcome) :
    Text.rows (frame c width outcome v) =
      [Styled.fit width c.line, rule width] ++ v.visible.map (Styled.fit width) ++
        [Styled.fit width (statusLine outcome v)] := by
  refine Text.rows_unrows (List.cons_ne_nil _ _) fun row hrow => ?_
  simp only [List.mem_append, List.mem_cons, List.mem_map, List.not_mem_nil, or_false] at hrow
  rcases hrow with ((rfl | rfl) | ⟨line, hline, rfl⟩) | rfl
  · exact hcaption
  · exact lineFeed_notMem_rule width
  · exact Styled.foreign_lineFeed.notMem_fit (hv.notMem_of_mem_visible hline) width
  · exact Styled.foreign_lineFeed.notMem_fit (lineFeed_notMem_statusLine outcome v) width

/-- **A frame fills its screen**, unless the title breaks into several rows or a
line ends inside of a sequence. -/
theorem fillsScreen_frame {c : Caption} {width height : Nat} {v : Viewport} (hheight : 4 ≤ height)
    (hrows : v.height = outputRows height) (hv : v.Tidy)
    (hfeed : '\n' ∉ Styled.fit width c.line)
    (hcaption : Whole c.line ∨ width < Styled.width c.line)
    (hlines : ∀ line ∈ v.visible, Whole line ∨ width < Styled.width line)
    (outcome : Option Outcome) : FillsScreen width height (frame c width outcome v) := by
  rw [FillsScreen, rows_frame hfeed hv]
  constructor
  · have houtput : outputRows height = height - 3 := by
      rw [outputRows, headerRows, footerRows]
      omega
    simp only [List.length_append, List.length_cons, List.length_nil, List.length_map,
      v.length_visible, hrows, houtput]
    omega
  · intro row hrow
    simp only [List.mem_append, List.mem_cons, List.mem_map, List.not_mem_nil, or_false] at hrow
    rcases hrow with ((rfl | rfl) | ⟨line, hline, rfl⟩) | rfl
    · exact Styled.width_fit hcaption
    · exact width_rule width
    · exact Styled.width_fit (hlines line hline)
    · exact Styled.width_fit (Or.inl (whole_statusLine outcome v))

/-! ## What events keep -/

/-- What a frame is made from, but for the outcome. -/
structure Surface where
  caption : Caption
  width : Nat
  height : Nat
  viewport : Viewport

/-- What events other than a new size keep of a surface. -/
structure Surface.Kept (x y : Surface) : Prop where
  caption_eq : y.caption = x.caption
  width_eq : y.width = x.width
  height_eq : y.height = x.height
  rows_eq : y.viewport.height = x.viewport.height
  tidy : x.viewport.Tidy → y.viewport.Tidy

/-- The surface with the viewport brought to another size. -/
def Surface.resize (x : Surface) (width height : Nat) : Surface :=
  { x with width, height, viewport := x.viewport.setSize width (outputRows height) }

namespace Surface

theorem Kept.refl (x : Surface) : x.Kept x := ⟨rfl, rfl, rfl, rfl, id⟩

theorem Kept.trans {x y z : Surface} (h : x.Kept y) (h' : y.Kept z) : x.Kept z :=
  ⟨h'.caption_eq.trans h.caption_eq, h'.width_eq.trans h.width_eq, h'.height_eq.trans h.height_eq,
    h'.rows_eq.trans h.rows_eq, h'.tidy ∘ h.tidy⟩

/-- Moving the viewport keeps the surface. -/
theorem kept_of_moved (x : Surface) {v : Viewport} (hlines : v.lines = x.viewport.lines)
    (hrows : v.height = x.viewport.height) : x.Kept { x with viewport := v } := by
  refine ⟨rfl, rfl, rfl, hrows, fun htidy => ?_⟩
  show ∀ line ∈ v.lines, '\n' ∉ line
  rw [hlines]
  exact htidy

/-- So does another text, wherever it is then shown from. -/
theorem kept_of_content (x : Surface) (content : Text) {v : Viewport}
    (hlines : v.lines = (x.viewport.setContent content).lines)
    (hrows : v.height = x.viewport.height) : x.Kept { x with viewport := v } := by
  refine ⟨rfl, rfl, rfl, hrows, fun _ => ?_⟩
  show ∀ line ∈ v.lines, '\n' ∉ line
  rw [hlines]
  exact x.viewport.tidy_setContent content

end Surface

/-- Whether an event is a new size of the screen. -/
def Event.isResize : Event → Bool
  | .resize _ _ => true
  | _ => false

/-- Whether an event concerns the output or where it is shown: a new size of the screen,
output, and the end of the command. -/
def Event.isOutput : Event → Bool
  | .resize _ _ | .output _ | .exited _ => true
  | _ => false

/-- A kind of session whose frames are made from surfaces. -/
structure Surfaced (σ : Type) [IsSession σ] (surface : σ → Surface) : Prop where
  kept : ∀ s e, e.isResize = false → (surface s).Kept (surface (IsSession.handle s e).1)
  resized : ∀ s width height,
    surface (IsSession.handle s (.resize width height)).1 = (surface s).resize width height

namespace Surfaced

variable {σ : Type} [IsSession σ] {surface : σ → Surface}

theorem kept_after (h : Surfaced σ surface) (s : σ) {events : List Event}
    (hevents : ∀ e ∈ events, e.isResize = false) : (surface s).Kept (surface (after s events)) := by
  induction events generalizing s with
  | nil => exact Surface.Kept.refl _
  | cons e events ih =>
    have hnow := h.kept s e (hevents e List.mem_cons_self)
    exact hnow.trans (ih _ fun e' he' => hevents e' (List.mem_cons_of_mem e he'))

/-- Titles stay and lines hold no line feeds, whatever happens. -/
theorem tidy_after (h : Surfaced σ surface) {s : σ} (hs : (surface s).viewport.Tidy)
    (events : List Event) :
    (surface (after s events)).caption = (surface s).caption ∧
      (surface (after s events)).viewport.Tidy := by
  refine after_invariant (P := fun s' =>
    (surface s').caption = (surface s).caption ∧ (surface s').viewport.Tidy) ?_ ⟨rfl, hs⟩ events
  rintro s' e ⟨hcaption, htidy⟩
  by_cases he : e.isResize = true
  · cases e with
    | resize width height =>
      rw [h.resized]
      exact ⟨hcaption, htidy⟩
    | _ => exact absurd he Bool.false_ne_true
  · have hkept := h.kept s' e (Bool.eq_false_iff.mpr he)
    exact ⟨hkept.caption_eq.trans hcaption, hkept.tidy htidy⟩

/-- **After any events** the surface has the size of the last resize. -/
theorem after_resize (h : Surfaced σ surface) {s : σ} (hs : (surface s).viewport.Tidy)
    (before : List Event) {later : List Event} (hlater : ∀ e ∈ later, e.isResize = false)
    (width height : Nat) :
    let x := surface (after s (before ++ .resize width height :: later))
    x.caption = (surface s).caption ∧ x.width = width ∧ x.height = height ∧
      x.viewport.height = outputRows height ∧ x.viewport.Tidy := by
  obtain ⟨hcaption, htidy⟩ := h.tidy_after hs (before ++ .resize width height :: later)
  rw [after_append, after_cons] at hcaption htidy ⊢
  have hkept := h.kept_after (IsSession.handle (after s before) (.resize width height)).1 hlater
  rw [h.resized] at hkept
  exact ⟨hcaption, hkept.width_eq, hkept.height_eq, hkept.rows_eq, htidy⟩

/-- The frame of a session after any events. -/
theorem fillsScreen_frame (h : Surfaced σ surface) {s : σ} (hs : (surface s).viewport.Tidy)
    {before later : List Event} {width height : Nat} (hwidth : 1 ≤ width) (hheight : 4 ≤ height)
    (hlater : ∀ e ∈ later, e.isResize = false)
    (hfeed : '\n' ∉ Styled.fit width (surface s).caption.line)
    (hcaption : Whole (surface s).caption.line ∨ width < Styled.width (surface s).caption.line) :
    let x := surface (after s (before ++ .resize width height :: later))
    x.width ≠ 0 ∧ x.height ≠ 0 ∧
      ((∀ line ∈ x.viewport.visible, Whole line ∨ width < Styled.width line) → ∀ outcome,
        FillsScreen width height (frame x.caption x.width outcome x.viewport)) := by
  intro x
  obtain ⟨hc, hw, hh, hrows, htidy⟩ := h.after_resize hs before hlater width height
  refine ⟨?_, ?_, fun hlines outcome => ?_⟩
  · rw [show x.width = width from hw]
    omega
  · rw [show x.height = height from hh]
    omega
  · rw [show x.caption = _ from hc, show x.width = width from hw]
    exact Session.fillsScreen_frame hheight hrows htidy hfeed hcaption hlines outcome

end Surfaced

/-! ## Both kinds of sessions -/

/-- Looking through the output leaves it where it is. -/
theorem review_show_eq {v v' : Viewport} {k : Key} (h : review v k = .show v') :
    ∃ offset, v' = { v with offset } := by
  revert h
  fun_cases review v k <;> intro h <;> cases h <;> exact ⟨_, rfl⟩

namespace Hosted

/-- What the frames of the session are made from. -/
def surface (s : Hosted) : Surface := ⟨s.caption, s.width, s.height, s.viewport⟩

theorem settle_eq (s : Hosted) (shown : Shown) (command : Option Widget.Effect) :
    ∃ stage shown', (s.settle shown command).1 = { s with stage, shown := shown' } := by
  rw [settle]
  split
  · exact ⟨_, _, rfl⟩
  · exact ⟨_, _, rfl⟩

theorem tell_eq (s : Hosted) (m : Widget.Message) :
    ∃ stage shown, (s.tell m).1 = { s with stage, shown } := by
  rw [tell]
  split
  · exact ⟨s.stage, s.shown, rfl⟩
  · exact settle_eq s _ _

theorem accept_eq (s : Hosted) (ticket : Ticket) :
    ∃ stage generation shown, (s.accept ticket).1 = { s with stage, generation, shown } := by
  rw [accept]
  split
  · exact ⟨s.stage, s.generation, s.shown, rfl⟩
  · exact ⟨s.stage, s.generation, s.shown, rfl⟩
  · split
    · exact ⟨s.stage, s.generation, s.shown, rfl⟩
    · next widget _ =>
      obtain ⟨stage, shown, hsettle⟩ :=
        settle_eq { s with generation := s.generation + 1, stage := .showingWidget }
          { generation := s.generation + 1, widget, ticket := ticket.number } widget.init
      exact ⟨stage, s.generation + 1, shown, hsettle⟩

theorem forward_eq (s : Hosted) (k : Key) :
    ∃ input finished, input.accepts = s.input.accepts ∧
      (s.forward k).1 = { s with input, finished } := by
  rw [forward]
  split
  · exact ⟨s.input, true, rfl, rfl⟩
  · split
    · exact ⟨s.input, s.finished, rfl, rfl⟩
    · next bytes _ => exact ⟨(s.input.write bytes).2, s.finished, rfl, rfl⟩

/-- **What keys, requests and messages for widgets can change.**  The text is left alone, and
the viewport is moved only after the end of the command. -/
theorem handle_eq (s : Hosted) {e : Event} (h : e.isOutput = false) :
    ∃ stage generation shown input finished offset, input.accepts = s.input.accepts ∧
      (offset = s.viewport.offset ∨ s.stage = .completed) ∧
      (s.handle e).1 = { s with
        stage, generation, shown, input, finished, viewport := { s.viewport with offset } } := by
  cases e with
  | key k =>
    rw [handle, handleKey]
    split
    · next hstage =>
      split
      · exact ⟨_, _, _, _, _, _, rfl, Or.inl rfl, rfl⟩
      · next v hreview =>
        obtain ⟨offset, rfl⟩ := review_show_eq hreview
        exact ⟨_, _, _, _, _, offset, rfl, Or.inr hstage, rfl⟩
    · obtain ⟨stage, shown, htell⟩ := s.tell_eq (.key k)
      exact ⟨_, _, _, _, _, _, rfl, Or.inl rfl, htell⟩
    · obtain ⟨input, finished, haccepts, hforward⟩ := s.forward_eq k
      exact ⟨_, _, _, _, _, _, haccepts, Or.inl rfl, hforward⟩
  | requested ticket =>
    obtain ⟨stage, generation, shown, haccept⟩ := s.accept_eq ticket
    exact ⟨_, _, _, _, _, _, rfl, Or.inl rfl, haccept⟩
  | widget generation m =>
    obtain ⟨stage, shown, htell⟩ := s.tell_eq m
    rw [handle]
    split
    · split
      · exact ⟨_, _, _, _, _, _, rfl, Or.inl rfl, htell⟩
      · exact ⟨_, _, _, _, _, _, rfl, Or.inl rfl, rfl⟩
    · exact ⟨_, _, _, _, _, _, rfl, Or.inl rfl, rfl⟩
  | resize width height => cases h
  | output text => cases h
  | exited outcome => cases h

theorem abandon_eq (s : Hosted) : s.abandon.1 = { s with shown := none } := by
  rw [abandon]
  split
  · next hnone => rw [← hnone]
  · rfl

theorem kept_write (s : Hosted) (text : Text) : s.surface.Kept (s.write text).surface := by
  rw [write]
  split
  · exact s.surface.kept_of_content (s.content ++ text) rfl rfl
  · exact s.surface.kept_of_content (s.content ++ text) rfl rfl

theorem kept_complete (s : Hosted) (outcome : Outcome) :
    s.surface.Kept (s.complete outcome).1.surface := by
  have habandon : s.surface.Kept s.abandon.1.surface := by
    rw [abandon_eq]
    exact Surface.Kept.refl _
  exact habandon.trans (s.abandon.1.surface.kept_of_content
    (s.abandon.1.content ++ outcome.summary) rfl rfl)

theorem surfaced : Surfaced Hosted surface where
  resized _ _ _ := rfl
  kept s e he := by
    cases hquiet : e.isOutput with
    | false =>
      obtain ⟨stage, generation, shown, input, finished, offset, -, -, hnext⟩ := s.handle_eq hquiet
      show s.surface.Kept (s.handle e).1.surface
      rw [hnext]
      exact s.surface.kept_of_moved rfl rfl
    | true =>
      cases e with
      | output text => exact s.kept_write text
      | exited outcome => exact s.kept_complete outcome
      | resize width height => cases he
      | _ => cases hquiet

/-- Without a widget the screen is a frame. -/
theorem view_of_unshown {s : Hosted} (hwidth : s.width ≠ 0) (hheight : s.height ≠ 0)
    (h : s.shown = none) : s.view = frame s.caption s.width s.outcome s.viewport := by
  rw [view, if_neg (not_or.mpr ⟨hwidth, hheight⟩), h]

end Hosted

namespace Piped

/-- What the frames of the session are made from. -/
def surface (s : Piped) : Surface := ⟨s.caption, s.width, s.height, s.viewport⟩

theorem surface_send (s : Piped) (bytes : List UInt8) : (s.send bytes).1.surface = s.surface := by
  rw [send]
  split
  · rfl
  · dsimp only
    split
    · rfl
    · rfl

theorem kept_refresh (s : Piped) : s.surface.Kept s.refresh.surface := by
  rw [refresh]
  split
  · exact s.surface.kept_of_content s.transcript.display rfl rfl
  · exact s.surface.kept_of_content s.transcript.display rfl rfl

theorem kept_handleTyping (s : Piped) (k : Key) : s.surface.Kept (s.handleTyping k).1.surface := by
  rw [handleTyping]
  split
  · exact Surface.Kept.refl _
  split
  · exact Surface.Kept.refl _
  split
  · exact Surface.Kept.refl _
  · next bytes? transcript _ =>
    dsimp only
    split
    · next bytes _ =>
      have hsent : ({ (s.send bytes).1 with transcript } : Piped).surface = s.surface :=
        s.surface_send bytes
      rw [← hsent]
      exact kept_refresh _
    · exact kept_refresh { s with transcript }

theorem kept_handleKey (s : Piped) (k : Key) : s.surface.Kept (s.handleKey k).1.surface := by
  rw [handleKey]
  split
  · split
    · exact Surface.Kept.refl _
    · next v h =>
      obtain ⟨offset, rfl⟩ := review_show_eq h
      exact s.surface.kept_of_moved rfl rfl
  · exact s.kept_handleTyping k

theorem kept_complete (s : Piped) (outcome : Outcome) :
    s.surface.Kept (s.complete outcome).1.surface := by
  have hshown := kept_refresh { s.close.1 with
    transcript := s.transcript.output outcome.summary
    outcome := some outcome
    stage := .completed }
  exact hshown.trans (Surface.kept_of_moved _ rfl rfl)

theorem surfaced : Surfaced Piped surface where
  resized _ _ _ := rfl
  kept s e he := by
    cases e with
    | key k => exact s.kept_handleKey k
    | resize width height => exact nomatch he
    | output text => exact kept_refresh { s with transcript := s.transcript.output text }
    | exited outcome => exact s.kept_complete outcome
    | requested ticket => exact Surface.Kept.refl _
    | widget generation m => exact Surface.Kept.refl _

theorem view_eq_frame {s : Piped} (hwidth : s.width ≠ 0) (hheight : s.height ≠ 0) :
    s.view = frame s.caption s.width s.outcome s.viewport := by
  rw [view, if_neg (not_or.mpr ⟨hwidth, hheight⟩)]

end Piped

/-- **Frames have the size of the screen**: whatever happened, if the screen was
last said to have `width` columns and `height` rows and no widget is shown. -/
theorem fillsScreen_after {caption : Caption} {before later : List Event} {width height : Nat}
    (hwidth : 1 ≤ width) (hheight : 4 ≤ height) (hlater : ∀ e ∈ later, e.isResize = false)
    (hfeed : '\n' ∉ Styled.fit width caption.line)
    (hcaption : Whole caption.line ∨ width < Styled.width caption.line) :
    let events := before ++ .resize width height :: later
    (∀ theme files input,
      let s := after (Hosted.make caption theme files input) events
      s.shown = none →
        (∀ line ∈ s.viewport.visible, Whole line ∨ width < Styled.width line) →
          FillsScreen width height s.view) ∧
    (∀ echo input,
      let s := after (Piped.make caption echo input) events
      (∀ line ∈ s.viewport.visible, Whole line ∨ width < Styled.width line) →
        FillsScreen width height s.view) := by
  intro events
  constructor
  · intro theme files input s hshown hlines
    have htidy : (Hosted.make caption theme files input).surface.viewport.Tidy :=
      fun _ h => nomatch h
    obtain ⟨hw, hh, hfills⟩ :=
      Hosted.surfaced.fillsScreen_frame htidy hwidth hheight hlater hfeed hcaption
    rw [Hosted.view_of_unshown (s := s) hw hh hshown]
    exact hfills hlines s.outcome
  · intro echo input s hlines
    have htidy : (Piped.make caption echo input).surface.viewport.Tidy := fun _ h => nomatch h
    obtain ⟨hw, hh, hfills⟩ :=
      Piped.surfaced.fillsScreen_frame htidy hwidth hheight hlater hfeed hcaption
    rw [Piped.view_eq_frame (s := s) hw hh]
    exact hfills hlines s.outcome

/-- Output in colours under a title and a command. -/
theorem fillsScreen_after_output :
    let caption : Caption := { title := "Build".toList, command := "make".toList }
    let theme : Modal.Theme := ⟨⟨26, 26, 46⟩, ⟨124, 58, 237⟩, ⟨124, 58, 237⟩⟩
    let red := Styled.controlSequence "31".toList 'm' ++ "red".toList ++ Styled.reset
    let events : List Event := [.output "one\n".toList] ++ .resize 30 5 :: [.output red]
    let hosted := after (Hosted.make caption theme {} .working) events
    let piped := after (Piped.make caption true .working) events
    red ∈ hosted.viewport.visible ∧ FillsScreen 30 5 hosted.view ∧
      red ∈ piped.viewport.visible ∧ FillsScreen 30 5 piped.view := by
  intro caption theme red events hosted piped
  have hfeed : '\n' ∉ Styled.fit 30 caption.line := by decide
  have hcaption : Whole caption.line ∨ 30 < Styled.width caption.line := by decide
  have hlater : ∀ e ∈ [Event.output red], e.isResize = false := by decide
  refine ⟨by decide, ?_, by decide, ?_⟩
  · refine (fillsScreen_after (by decide) (by decide) hlater hfeed hcaption).1 theme {} .working
      rfl ?_
    decide
  · refine (fillsScreen_after (by decide) (by decide) hlater hfeed hcaption).2 true .working ?_
    decide

/-- A line that ends inside of a sequence takes the reset behind it into that
sequence, and what is left of the reset makes the row too wide. -/
theorem dangling_sequence_overflows :
    let theme : Modal.Theme := ⟨⟨26, 26, 46⟩, ⟨124, 58, 237⟩, ⟨124, 58, 237⟩⟩
    let s := after (Hosted.make {} theme {} .working)
      [.resize 20 4, .output ("ab".toList ++ [Styled.esc, '[', '3'])]
    s.shown = none ∧ ¬ FillsScreen 20 4 s.view :=
  ⟨rfl, by decide⟩

-- A title with a line feed takes two rows.
example : ¬ FillsScreen 20 4 (after (Piped.make { title := "a\nb".toList } true .working)
    [.resize 20 4]).view := by
  decide

end Session
end TerminalDialogs
