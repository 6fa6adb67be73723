import TerminalDialogs.Proofs.Session.Follow

/-!
# After the end of the command

The threads that read the output and wait for the command do not know of each other, so a
session may be told anything after it was told the end.  It stays in its last stage, and
whatever comes, it does no more than to reply to requests (`Rests.silent_after`).  What it
has to show, its record, follows from the output alone: late output is put behind the
summary, and only keys that navigate and new sizes move the window on it
(`Record.Follows`).

The one event that is handled as if nothing had happened is a second end: it replaces the
result, puts another summary behind the first and goes to the bottom, so what is said about
the record is said of events without one.  Neither late output nor a second end is refused,
though the text is meant to be read-only by then (`record_rewritten`).
-/

namespace TerminalDialogs

/-- Whether a key moves a window on a long text. -/
def Key.navigates (k : Key) : Bool :=
  !k.ctrl &&
    match k.code with
    | .up | .down | .pageUp | .pageDown | .home | .endKey => true
    | .char c => "kjbf gG".toList.contains c
    | _ => false

/-- A text that gets longer leaves the window on it where it is. -/
theorem Viewport.setContent_append (v : Viewport) {text : Text}
    (hlines : v.lines = (setContent {} text).lines) (hoffset : v.offset ≤ v.lastOffset)
    (more : Text) :
    v.setContent (text ++ more) = { v with lines := (v.setContent (text ++ more)).lines } := by
  have hlonger : v.lastOffset ≤ (v.setContent (text ++ more)).lastOffset := by
    have hnow : v.lines.length = (Text.rows text).length := by
      rw [hlines]
      exact List.length_map _
    have hthen : (v.setContent (text ++ more)).lines.length =
        (Text.rows (text ++ more)).length := List.length_map _
    rw [lastOffset, lastOffset, hnow, hthen]
    exact Nat.sub_le_sub_right (Text.length_rows_le_append text more) v.height
  have hstays : min v.offset (v.setContent (text ++ more)).lastOffset = v.offset :=
    Nat.min_eq_left (Nat.le_trans hoffset hlonger)
  exact congrArg (fun offset => ({ v with
    lines := (v.setContent (text ++ more)).lines, offset } : Viewport)) hstays

namespace Session

/-- Whether an event may move the window on a text that stays as it is. -/
def Event.navigates : Event → Bool
  | .key k => k.navigates
  | .resize _ _ => true
  | _ => false

/-! ## Looking through the output -/

theorem review_of_not_navigates {k : Key} (h : k.navigates = false) (v : Viewport) :
    review v k = .leave ∨ review v k = .show v := by
  fun_cases review v k
  case case1 | case3 | case4 | case5 => exact Or.inl rfl
  case case2 | case19 => exact Or.inr rfl
  -- the keys that are left are those that navigate
  all_goals simp [Key.navigates, *] at h

theorem offset_le_of_review {v v' : Viewport} {k : Key} (h : review v k = .show v')
    (hv : v.offset ≤ v.lastOffset) : v'.offset ≤ v'.lastOffset := by
  have hup (n : Nat) : (v.up n).offset ≤ (v.up n).lastOffset :=
    Nat.le_trans (Nat.sub_le v.offset n) hv
  have hdown (n : Nat) : (v.down n).offset ≤ (v.down n).lastOffset := Nat.min_le_right _ _
  revert h
  fun_cases review v k
  all_goals
    intro h
    cases h
  case case2 | case19 => exact hv
  case case6 | case7 | case10 | case11 => exact hup _
  case case8 | case9 | case12 | case13 | case14 => exact hdown _
  case case15 | case16 => exact Nat.zero_le _
  case case17 | case18 => exact Nat.le_refl _

/-- A key that does not end the session moves the window within the text, and only if it
navigates. -/
theorem review_show_cases {v v' : Viewport} {k : Key} (h : review v k = .show v')
    (hv : v.offset ≤ v.lastOffset) :
    ∃ offset, v' = { v with offset } ∧ offset ≤ v.lastOffset ∧
      (k.navigates = false → offset = v.offset) := by
  obtain ⟨offset, rfl⟩ := review_show_eq h
  refine ⟨offset, rfl, offset_le_of_review h hv, fun hk => ?_⟩
  rcases review_of_not_navigates hk v with hleave | hstays
  · rw [h] at hleave
    cases hleave
  · rw [h] at hstays
    exact congrArg Viewport.offset (Review.show.inj hstays)

/-! ## The record -/

/-- What is left of a command that has ended: its result and its text, with the window that
shows it. -/
structure Record where
  outcome : Option Outcome
  content : Text
  viewport : Viewport

namespace Record

/-- The window has the lines of the text and lies within them. -/
structure Shown (r : Record) : Prop where
  lines_eq : r.viewport.lines = (Viewport.setContent {} r.content).lines
  offset_le : r.viewport.offset ≤ r.viewport.lastOffset

/-- The record after some events: the result is kept, the text too but for what is printed
behind it, and unless an event navigates the window stays where it was. -/
structure Follows (r : Record) (later : List Event) (r' : Record) : Prop where
  outcome_eq : r'.outcome = r.outcome
  content_eq : r'.content = r.content ++ later.flatMap Event.printed
  viewport_eq : (∀ e ∈ later, e.navigates = false) →
    r'.viewport = { r.viewport with lines := r'.viewport.lines }

variable {r r' r'' : Record} {e : Event} {later : List Event}

theorem Follows.refl (r : Record) : r.Follows [] r where
  outcome_eq := rfl
  content_eq := (List.append_nil r.content).symm
  viewport_eq _ := rfl

theorem Follows.cons (hnow : r.Follows [e] r') (hlater : r'.Follows later r'') :
    r.Follows (e :: later) r'' where
  outcome_eq := hlater.outcome_eq.trans hnow.outcome_eq
  content_eq := by
    rw [hlater.content_eq, hnow.content_eq, List.append_assoc, ← List.flatMap_append]
    rfl
  viewport_eq hevents := by
    rw [List.forall_mem_cons] at hevents
    rw [hlater.viewport_eq hevents.2,
      hnow.viewport_eq fun e' he' => List.mem_singleton.mp he' ▸ hevents.1]

theorem Follows.offset_eq (h : r.Follows later r') (hevents : ∀ e ∈ later, e.navigates = false) :
    r'.viewport.offset = r.viewport.offset := by
  rw [h.viewport_eq hevents]

/-- An event that prints nothing and leaves the lines alone. -/
theorem follows_of_quiet (hprinted : e.printed = []) {offset : Nat}
    (hoffset : e.navigates = false → offset = r.viewport.offset) :
    r.Follows [e] { r with viewport := { r.viewport with offset } } where
  outcome_eq := rfl
  content_eq := by rw [List.flatMap_singleton, hprinted, List.append_nil]
  viewport_eq hevents := by rw [hoffset (hevents e List.mem_cons_self)]

theorem follows_resize (r : Record) (width height rows : Nat) :
    r.Follows [.resize width height] { r with viewport := r.viewport.setSize width rows } where
  outcome_eq := rfl
  content_eq := (List.append_nil r.content).symm
  viewport_eq hevents := Bool.noConfusion (hevents _ List.mem_cons_self)

/-- Late output makes the text longer, so the window need not be moved. -/
theorem Shown.follows_output (hr : r.Shown) (text : Text) :
    r.Follows [.output text] { r with
      content := r.content ++ text
      viewport := r.viewport.setContent (r.content ++ text) } where
  outcome_eq := rfl
  content_eq := by rw [List.flatMap_singleton]; rfl
  viewport_eq _ := r.viewport.setContent_append hr.lines_eq hr.offset_le text

theorem Shown.output (r : Record) (text : Text) :
    Shown { r with
      content := r.content ++ text
      viewport := r.viewport.setContent (r.content ++ text) } where
  lines_eq := rfl
  offset_le := Nat.min_le_right _ _

theorem Shown.resize (hr : r.Shown) (width height : Nat) :
    Shown { r with viewport := r.viewport.setSize width height } where
  lines_eq := hr.lines_eq
  offset_le := Nat.min_le_right _ _

end Record

/-! ## Any kind of session -/

/-- Nothing is done but to reply to requests. -/
def OnlyReplies (effects : List Effect) : Prop :=
  ∀ effect ∈ effects, effect.answers?.isSome = true

theorem onlyReplies_nil : OnlyReplies [] := fun _ heffect => nomatch heffect

/-- How a kind of session rests after the end: it stays there, it only replies, and short of a
second end its record follows from the output. -/
structure Rests (σ : Type) [IsSession σ] (ended : σ → Prop) (record : σ → Record) : Prop where
  stays : ∀ s e, ended s → ended (IsSession.handle s e).1
  silent : ∀ s e, ended s → OnlyReplies (IsSession.handle s e).2.effects
  follows : ∀ s e, ended s → e.isExit = false →
    (record s).Follows [e] (record (IsSession.handle s e).1)

namespace Rests

variable {σ : Type} [IsSession σ] {ended : σ → Prop} {record : σ → Record} {s : σ}

theorem ended_after (h : Rests σ ended record) (hs : ended s) (later : List Event) :
    ended (after s later) :=
  after_invariant h.stays hs later

theorem silent_after (h : Rests σ ended record) (hs : ended s) (later : List Event) :
    OnlyReplies (effects s later) := by
  induction later generalizing s with
  | nil => exact onlyReplies_nil
  | cons e later ih =>
    rw [effects_cons, OnlyReplies, List.forall_mem_append]
    exact ⟨h.silent s e hs, ih (h.stays s e hs)⟩

theorem follows_after (h : Rests σ ended record) (hs : ended s) {later : List Event}
    (hlater : ∀ e ∈ later, e.isExit = false) :
    (record s).Follows later (record (after s later)) := by
  induction later generalizing s with
  | nil => exact Record.Follows.refl _
  | cons e later ih =>
    rw [List.forall_mem_cons] at hlater
    exact (h.follows s e hs hlater.1).cons (ih (h.stays s e hs) hlater.2)

end Rests

/-! ## Both kinds of sessions -/

namespace Hosted

/-- What a session has to show. -/
def record (s : Hosted) : Record := ⟨s.outcome, s.content, s.viewport⟩

/-- The command has ended, and nobody waits for a widget. -/
structure Ended (s : Hosted) : Prop where
  stage_eq : s.stage = .completed
  shown_eq : s.shown = none
  record_shown : s.record.Shown

theorem ended_complete (s : Hosted) (outcome : Outcome) : (s.complete outcome).1.Ended where
  stage_eq := rfl
  shown_eq := by
    show s.abandon.1.shown = none
    rw [abandon_eq]
  record_shown := ⟨rfl, Nat.le_refl _⟩

/-- What is neither output nor an end leaves the text alone, and the window too unless it
navigates. -/
theorem Ended.handle_quiet {s : Hosted} (h : s.Ended) {e : Event} (he : e.isOutput = false) :
    ∃ finished offset effects, s.handle e = ({ s with
        finished, viewport := { s.viewport with offset } }, { effects }) ∧
      offset ≤ s.viewport.lastOffset ∧ (e.navigates = false → offset = s.viewport.offset) ∧
      OnlyReplies effects := by
  cases e with
  | key k =>
    rw [handle, handleKey, h.stage_eq]
    dsimp only
    cases hreview : review s.viewport k with
    | leave =>
      exact ⟨true, s.viewport.offset, [], rfl, h.record_shown.offset_le,
        fun _ => rfl, onlyReplies_nil⟩
    | «show» viewport =>
      obtain ⟨offset, rfl, hwithin, hstays⟩ := review_show_cases hreview h.record_shown.offset_le
      exact ⟨s.finished, offset, [], rfl, hwithin, hstays, onlyReplies_nil⟩
  | requested ticket =>
    rcases accept_cases s ticket with ⟨-, reason, haccept⟩ | ⟨opened, hstage, -⟩
    · refine ⟨s.finished, s.viewport.offset, _, haccept, h.record_shown.offset_le, fun _ => rfl, ?_⟩
      exact fun effect heffect => by rw [List.mem_singleton.mp heffect]; rfl
    · rw [h.stage_eq] at hstage
      cases hstage
  | widget generation m =>
    have hignored : s.handle (.widget generation m) = (s, {}) := by
      rw [handle, h.shown_eq]
    exact ⟨s.finished, s.viewport.offset, [], hignored, h.record_shown.offset_le, fun _ => rfl,
      onlyReplies_nil⟩
  | resize width height => cases he
  | output text => cases he
  | exited outcome => cases he

theorem Ended.write_eq {s : Hosted} (h : s.Ended) (text : Text) :
    s.write text = { s with
      content := s.content ++ text
      viewport := s.viewport.setContent (s.content ++ text) } := by
  have hstage : s.stage ≠ .executing := fun hstage => Stage.noConfusion (h.stage_eq ▸ hstage)
  rw [write, if_neg hstage]

theorem Ended.handle {s : Hosted} (h : s.Ended) (e : Event) :
    (s.handle e).1.Ended ∧ OnlyReplies (s.handle e).2.effects ∧
      (e.isExit = false → s.record.Follows [e] (s.handle e).1.record) := by
  cases hquiet : e.isOutput with
  | false =>
    obtain ⟨finished, offset, effects, hnext, hwithin, hstays, hsilent⟩ := h.handle_quiet hquiet
    have hprinted : e.printed = [] := by
      cases e with
      | output text => cases hquiet
      | _ => rfl
    rw [hnext]
    exact ⟨⟨h.stage_eq, h.shown_eq, h.record_shown.lines_eq, hwithin⟩, hsilent,
      fun _ => Record.follows_of_quiet hprinted hstays⟩
  | true =>
    cases e with
    | output text =>
      rw [Hosted.handle, h.write_eq]
      exact ⟨⟨h.stage_eq, h.shown_eq, Record.Shown.output s.record text⟩,
        onlyReplies_nil, fun _ => h.record_shown.follows_output text⟩
    | resize width height =>
      have heffects : (s.handle (.resize width height)).2.effects = [] := if_pos h.stage_eq
      have hshown : (s.handle (.resize width height)).1.shown = none := by
        rw [Hosted.handle, resize, h.shown_eq]
        rfl
      rw [heffects]
      exact ⟨⟨h.stage_eq, hshown, h.record_shown.resize width (outputRows height)⟩,
        onlyReplies_nil,
        fun _ => s.record.follows_resize width height (outputRows height)⟩
    | exited outcome =>
      have heffects : (s.handle (.exited outcome)).2.effects = [] := by
        show s.abandon.2 = []
        rw [abandon, h.shown_eq]
      rw [heffects]
      exact ⟨s.ended_complete outcome, onlyReplies_nil, fun he => Bool.noConfusion he⟩
    | _ => cases hquiet

theorem rests : Rests Hosted Ended record where
  stays _ e hs := (hs.handle e).1
  silent _ e hs := (hs.handle e).2.1
  follows _ e hs := (hs.handle e).2.2

theorem ended_after (caption : Caption) (theme : Modal.Theme) (files : Files.Tree)
    (input : Writer) {past : List Event}
    (h : (after (make caption theme files input) past).stage = .completed) :
    (after (make caption theme files input) past).Ended := by
  refine (after_invariant (P := fun s : Hosted =>
    s.standing.Consistent ∧ (s.stage = .completed → s.Ended)) ?_
    ⟨make_consistent caption theme files input, Stage.noConfusion⟩ past).2 h
  rintro s e ⟨hs, hended⟩
  refine ⟨(handle_change s e).consistent hs, fun hstage => ?_⟩
  rcases (handle_completed_iff hs e).mp hstage with hbefore | hexit
  · exact ((hended hbefore).handle e).1
  · cases e with
    | exited outcome => exact s.ended_complete outcome
    | _ => cases hexit

end Hosted

namespace Piped

/-- What a session has to show. -/
def record (s : Piped) : Record := ⟨s.outcome, s.transcript.content, s.viewport⟩

/-- The command has ended, the pipe to it is closed, and nothing that was typed is left over. -/
structure Ended (s : Piped) : Prop where
  stage_eq : s.stage = .completed
  input_eq : s.input = none
  pending_eq : s.transcript.pending = []
  record_shown : s.record.Shown

theorem display_of_pending {t : Transcript} (h : t.pending = []) : t.display = t.content := by
  rw [Transcript.display, h, List.append_nil]

theorem ended_complete (s : Piped) (outcome : Outcome) : (s.complete outcome).1.Ended where
  stage_eq := rfl
  input_eq := rfl
  pending_eq := rfl
  record_shown := by
    refine ⟨?_, Nat.le_refl _⟩
    have hlines : (s.complete outcome).1.viewport.lines =
        (Viewport.setContent {} (s.complete outcome).1.transcript.display).lines := rfl
    have hdisplay : (s.complete outcome).1.transcript.display =
        (s.complete outcome).1.transcript.content := display_of_pending rfl
    rw [hdisplay] at hlines
    exact hlines

/-- Late output is put behind the summary. -/
theorem Ended.handle_output {s : Piped} (h : s.Ended) (text : Text) :
    s.handle (.output text) = ({ s with
      transcript := s.transcript.output text
      viewport := s.viewport.setContent (s.transcript.content ++ text) }, []) := by
  have hstage : s.stage ≠ .executing := fun hstage => Stage.noConfusion (h.stage_eq ▸ hstage)
  have hdisplay : (s.transcript.output text).display = s.transcript.content ++ text :=
    display_of_pending rfl
  rw [handle, refresh, if_neg hstage, hdisplay]

theorem Ended.handle {s : Piped} (h : s.Ended) (e : Event) :
    (s.handle e).1.Ended ∧ OnlyReplies (s.handle e).2 ∧
      (e.isExit = false → s.record.Follows [e] (s.handle e).1.record) := by
  cases e with
  | key k =>
    rw [Piped.handle, handleKey, if_pos h.stage_eq]
    cases hreview : review s.viewport k with
    | leave =>
      exact ⟨⟨h.stage_eq, h.input_eq, h.pending_eq, h.record_shown⟩, onlyReplies_nil,
        fun _ => Record.follows_of_quiet rfl fun _ => rfl⟩
    | «show» viewport =>
      obtain ⟨offset, rfl, hwithin, hstays⟩ := review_show_cases hreview h.record_shown.offset_le
      exact ⟨⟨h.stage_eq, h.input_eq, h.pending_eq, h.record_shown.lines_eq, hwithin⟩,
        onlyReplies_nil, fun _ => Record.follows_of_quiet rfl hstays⟩
  | resize width height =>
    exact ⟨⟨h.stage_eq, h.input_eq, h.pending_eq, h.record_shown.resize width (outputRows height)⟩,
      onlyReplies_nil, fun _ => s.record.follows_resize width height (outputRows height)⟩
  | output text =>
    rw [h.handle_output]
    exact ⟨⟨h.stage_eq, h.input_eq, rfl, Record.Shown.output s.record text⟩, onlyReplies_nil,
      fun _ => h.record_shown.follows_output text⟩
  | exited outcome =>
    have heffects : (s.handle (.exited outcome)).2 = [] := by
      show s.close.2 = []
      rw [close, isClosed, h.input_eq]
      rfl
    rw [heffects]
    exact ⟨s.ended_complete outcome, onlyReplies_nil, fun he => Bool.noConfusion he⟩
  | requested ticket =>
    refine ⟨h, ?_, fun _ => Record.follows_of_quiet rfl fun _ => rfl⟩
    exact fun effect heffect => by rw [List.mem_singleton.mp heffect]; rfl
  | widget generation m =>
    exact ⟨h, onlyReplies_nil, fun _ => Record.follows_of_quiet rfl fun _ => rfl⟩

theorem rests : Rests Piped Ended record where
  stays _ e hs := (hs.handle e).1
  silent _ e hs := (hs.handle e).2.1
  follows _ e hs := (hs.handle e).2.2

theorem ended_after (caption : Caption) (echo : Bool) (input : Writer) {past : List Event}
    (h : (after (make caption echo input) past).stage = .completed) :
    (after (make caption echo input) past).Ended := by
  refine after_invariant (P := fun s : Piped => s.stage = .completed → s.Ended) ?_
    Stage.noConfusion past h
  intro s e hended hstage
  cases hexit : e.isExit with
  | false => exact ((hended ((s.stage_handle hexit).symm.trans hstage)).handle e).1
  | true =>
    cases e with
    | exited outcome => exact s.ended_complete outcome
    | _ => cases hexit

end Piped

/-- **The end of the command is the end but for navigation.**  After it, whatever comes, the
session stays in its last stage and does nothing but to reply to requests, so nothing is
written to the command, and the window shows the text that there is.  Short of a second end
the result stays, the text stays but for late output behind it, and only keys that navigate
and new sizes move the window or change its size. -/
theorem ended_rests (caption : Caption) (past later : List Event) :
    (∀ theme files input,
      let s := after (Hosted.make caption theme files input) past
      let s' := after s later
      s.stage = .completed →
        s'.stage = .completed ∧ OnlyReplies (effects s later) ∧
          s'.viewport.lines = (Viewport.setContent {} s'.content).lines ∧
          ((∀ e ∈ later, e.isExit = false) → s.record.Follows later s'.record)) ∧
    (∀ echo input,
      let s := after (Piped.make caption echo input) past
      let s' := after s later
      s.stage = .completed →
        s'.stage = .completed ∧ OnlyReplies (effects s later) ∧ s'.transcript.pending = [] ∧
          s'.viewport.lines = (Viewport.setContent {} s'.transcript.content).lines ∧
          ((∀ e ∈ later, e.isExit = false) → s.record.Follows later s'.record)) := by
  constructor
  · intro theme files input s s' hstage
    have hs : s.Ended := Hosted.ended_after caption theme files input hstage
    have hs' : s'.Ended := Hosted.rests.ended_after hs later
    exact ⟨hs'.stage_eq, Hosted.rests.silent_after hs later, hs'.record_shown.lines_eq,
      Hosted.rests.follows_after hs⟩
  · intro echo input s s' hstage
    have hs : s.Ended := Piped.ended_after caption echo input hstage
    have hs' : s'.Ended := Piped.rests.ended_after hs later
    exact ⟨hs'.stage_eq, Piped.rests.silent_after hs later, hs'.pending_eq,
      hs'.record_shown.lines_eq, Piped.rests.follows_after hs⟩

/-- Late output, a late request and a key that does not navigate. -/
theorem ended_rests_late :
    let theme : Modal.Theme := ⟨⟨26, 26, 46⟩, ⟨124, 58, 237⟩, ⟨124, 58, 237⟩⟩
    let past : List Event := [.resize 20 6, .output "a\n".toList, .exited (.exited 0 .zero)]
    let later : List Event := [.output "late\n".toList,
      .requested
        { number := 7
          request := { component := "confirm".toList, options := .object [] } },
      .key { code := .char 'x' }]
    let hosted := after (Hosted.make {} theme {} .working) past
    let piped := after (Piped.make {} true .working) past
    hosted.stage = .completed ∧ OnlyReplies (effects hosted later) ∧
      (after hosted later).outcome = hosted.outcome ∧
      (after hosted later).viewport.offset = hosted.viewport.offset ∧
      piped.stage = .completed ∧ OnlyReplies (effects piped later) ∧
      (after piped later).transcript.content = piped.transcript.content ++ "late\n".toList ∧
      (after piped later).viewport.offset = piped.viewport.offset := by
  intro theme past later hosted piped
  have hquiet : ∀ e ∈ later, e.navigates = false := by decide
  have hgoes : ∀ e ∈ later, e.isExit = false := by decide
  obtain ⟨hhosted, hpiped⟩ := ended_rests {} past later
  obtain ⟨-, hsilent, -, hfollows⟩ := hhosted theme {} .working rfl
  obtain ⟨-, hsilent', -, -, hfollows'⟩ := hpiped true .working rfl
  have hkept : hosted.record.Follows later (after hosted later).record := hfollows hgoes
  have hkept' : piped.record.Follows later (after piped later).record := hfollows' hgoes
  exact ⟨rfl, hsilent, hkept.outcome_eq, hkept.offset_eq hquiet, rfl, hsilent', hkept'.content_eq,
    hkept'.offset_eq hquiet⟩

/-- Of a session whose command has ended, late output changes the text, and a second end
changes the text and the result and moves the window. -/
theorem record_rewritten :
    let theme : Modal.Theme := ⟨⟨26, 26, 46⟩, ⟨124, 58, 237⟩, ⟨124, 58, 237⟩⟩
    let top : Event := .key { code := .char 'g' }
    let past : List Event := [.resize 20 6, .output "a\n".toList, .exited (.exited 0 .zero), top]
    let late : List Event := [.output "late\n".toList]
    let again : List Event := [.exited (.exited 3 .zero)]
    let hosted := after (Hosted.make {} theme {} .working) past
    let piped := after (Piped.make {} true .working) past
    hosted.stage = .completed ∧ (after hosted late).content ≠ hosted.content ∧
      (after hosted again).outcome ≠ hosted.outcome ∧
      (after hosted again).content ≠ hosted.content ∧
      (after hosted again).viewport.offset ≠ hosted.viewport.offset ∧
      piped.stage = .completed ∧ (after piped late).transcript ≠ piped.transcript ∧
      (after piped again).outcome ≠ piped.outcome ∧
      (after piped again).transcript ≠ piped.transcript ∧
      (after piped again).viewport.offset ≠ piped.viewport.offset := by
  decide +kernel

end Session
end TerminalDialogs
