import TerminalDialogs.Proofs.Session.History
import TerminalDialogs.Proofs.Widget.Protocol
import TerminalDialogs.Session.Hosted
import TerminalDialogs.Widget.Screen

/-!
# Loops are folds

There are two loops.  A session is told batches of events, as many as were waiting when it
looked, and is drawn before each batch.  A widget on the whole screen is told one event at a
time and drawn before each.  Either loop looks at two places whether it is over, after it
has drawn and (inside a batch) after each event, so it is not plain that the batches make no
difference.

They do not: what a loop comes to is told by the events alone, one after the other, up to
the first after which it is over (`UpTo`).  A run delivers those events
(`drive_delivers`), and as nothing is applied after the last drawing, the last frame shows
the final state (`Run.lastFrame_loop`, `ScreenRun.Tells.follow`).

Neither loop knows more of what it drives than a protocol, `IsSession` or `IsWidget`.
-/

namespace TerminalDialogs

/-! ## The shortest beginning -/

/-- The shortest beginning of a list after which something is over; all of the list if it
never is. -/
structure UpTo {α : Type} (isOver : List α → Prop) (whole beginning : List α) : Prop where
  isPrefix : beginning <+: whole
  shortest : ∀ shorter, shorter <+: beginning → shorter ≠ beginning → ¬ isOver shorter
  over_or_all : isOver beginning ∨ beginning = whole

namespace UpTo

variable {α : Type} {isOver : List α → Prop} {whole beginning : List α}

theorem of_over (h : isOver []) (whole : List α) : UpTo isOver whole [] where
  isPrefix := List.nil_prefix
  shortest _ hprefix hne := absurd (List.prefix_nil.mp hprefix) hne
  over_or_all := Or.inl h

theorem nil : UpTo isOver [] [] where
  isPrefix := List.nil_prefix
  shortest _ hprefix hne := absurd (List.prefix_nil.mp hprefix) hne
  over_or_all := Or.inr rfl

/-- If it is not over yet, one element more is needed. -/
theorem cons {a : α} (hopen : ¬ isOver [])
    (h : UpTo (fun past => isOver (a :: past)) whole beginning) :
    UpTo isOver (a :: whole) (a :: beginning) where
  isPrefix := List.cons_prefix_cons.mpr ⟨rfl, h.isPrefix⟩
  shortest shorter hprefix hne := by
    rcases shorter with _ | ⟨b, shorter⟩
    · exact hopen
    · obtain ⟨rfl, hrest⟩ := List.cons_prefix_cons.mp hprefix
      exact h.shortest shorter hrest fun heq => hne (congrArg (b :: ·) heq)
  over_or_all := h.over_or_all.imp_right (congrArg (a :: ·))

end UpTo

namespace Session

variable {σ : Type} [IsSession σ] {drawing : Drawing}

/-- What a session hears is told by when it is finished. -/
theorem upTo_heard (s : σ) (events : List Event) :
    UpTo (fun past => IsSession.isFinished (after s past) = true) events (heard s events) := by
  induction events generalizing s with
  | nil => exact UpTo.nil
  | cons e events ih =>
    rw [heard]
    by_cases hfinished : IsSession.isFinished s = true
    · rw [if_pos hfinished]
      exact UpTo.of_over hfinished _
    · rw [if_neg hfinished]
      exact UpTo.cons hfinished (ih (IsSession.handle s e).1)

namespace Run

theorem frames_draw (hdrawing : ∀ n frame, drawing n frame = none) (r : Run σ) :
    (r.draw drawing).frames = r.frames ++ [IsSession.view r.session] := by
  unfold draw
  dsimp only
  rw [hdrawing]

/-- **The last frame shows the final state**, because the loop ends with a drawing. -/
theorem lastFrame_loop (hdrawing : ∀ n frame, drawing n frame = none) (r : Run σ)
    (batches : List Batch) : (r.loop drawing batches).failure = r.failure ∧
      (r.loop drawing batches).frames.getLast? =
        some (IsSession.view (r.loop drawing batches).session) := by
  have hdrawn (r : Run σ) : (r.draw drawing).failure = r.failure ∧
      (r.draw drawing).frames.getLast? = some (IsSession.view (r.draw drawing).session) := by
    refine ⟨failure_draw hdrawing r, ?_⟩
    rw [frames_draw hdrawing, session_draw, List.getLast?_concat]
  induction batches generalizing r with
  | nil => exact hdrawn r
  | cons batch batches ih =>
    rw [loop]
    split
    · obtain ⟨hfailure, hframe⟩ := ih ((r.draw drawing).applyAll batch.events)
      rw [failure_applyAll, failure_draw hdrawing] at hfailure
      exact ⟨hfailure, hframe⟩
    · exact hdrawn r

end Run
end Session

/-! ## Widgets -/

namespace IsWidget

open Widget (Call Effect)

variable {σ : Type} [IsWidget σ]

/-- A widget after a call, and what it asks for. -/
def call (w : σ) : Call → σ × Option Effect
  | .init => (w, init w)
  | .message tree m => update tree m w
  | .resize width height => (setSize width height w, none)

/-- A widget after calls. -/
def after (w : σ) (calls : List Call) : σ := calls.foldl (fun w c => (call w c).1) w

/-- What a widget asks for on calls, in order. -/
def requests (w : σ) : List Call → List Effect
  | [] => []
  | c :: calls => (call w c).2.toList ++ requests (call w c).1 calls

theorem after_append (w : σ) (a b : List Call) : after w (a ++ b) = after (after w a) b :=
  List.foldl_append

theorem requests_append (w : σ) (a b : List Call) :
    requests w (a ++ b) = requests w a ++ requests (after w a) b := by
  induction a generalizing w with
  | nil => rfl
  | cons c a ih => rw [List.cons_append, requests, ih, requests, List.append_assoc]; rfl

theorem fst_call_eq (w : Widget) (c : Call) : (call w c).1 = w.call c := by
  cases c
  all_goals rfl

theorem snd_call_eq (w : Widget) (c : Call) : (call w c).2 = w.request c := by
  cases c
  all_goals rfl

/-- Calls do to a widget of one of the kinds what they do to any widget. -/
theorem after_eq (w : Widget) (calls : List Call) : after w calls = w.after calls := by
  rw [after, Widget.after]
  exact congrArg (calls.foldl · w) (funext fun w => funext fun c => fst_call_eq w c)

theorem requests_eq (w : Widget) (calls : List Call) : requests w calls = w.requests calls := by
  induction calls generalizing w with
  | nil => rfl
  | cons c calls ih => rw [requests, Widget.requests, ih, fst_call_eq, snd_call_eq]

end IsWidget

namespace Widget

variable {σ : Type} [IsWidget σ] {drawing : Drawing}

/-- What is done with the widget on the screen at a moment. -/
def Moment.call? (m : Moment) : Option Call :=
  match m.event with
  | .terminal (.key k) => some (.message m.files (.key k))
  | .terminal (.resize width height) => some (.resize width height)
  | .terminal .other => none
  | .message told => some (.message m.files told)

/-- The calls that moments lead to, in order. -/
def screenCalls (moments : List Moment) : List Call := moments.filterMap Moment.call?

namespace ScreenRun

/-- A run that has made these calls to a widget. -/
structure Tells (w : σ) (calls : List Call) (r : ScreenRun σ) : Prop where
  widget_eq : r.widget = IsWidget.after w calls
  started_eq : r.started = IsWidget.requests w calls

variable {w : σ} {r : ScreenRun σ} {calls : List Call}

theorem tells_start (w : σ) (width height : Nat) :
    (start w width height).Tells w [.resize width height, .init] :=
  ⟨rfl, (List.append_nil _).symm⟩

theorem Tells.call (h : r.Tells w calls) (c : Call) :
    Tells w (calls ++ [c])
      { r with
        widget := (IsWidget.call r.widget c).1
        started := r.started ++ (IsWidget.call r.widget c).2.toList } where
  widget_eq := by rw [IsWidget.after_append, ← h.widget_eq]; rfl
  started_eq := by
    rw [IsWidget.requests_append, ← h.widget_eq, ← h.started_eq, IsWidget.requests,
      IsWidget.requests,
      List.append_nil]

theorem Tells.apply (h : r.Tells w calls) (m : Moment) :
    (r.apply m.files m.event).Tells w (calls ++ m.call?.toList) := by
  obtain ⟨files, (k | ⟨width, height⟩ | _) | told⟩ := m
  · exact h.call (.message files (.key k))
  · have hcall := h.call (.resize width height)
    rw [IsWidget.call, Option.toList_none, List.append_nil] at hcall
    exact hcall
  · have hnone : Moment.call? ⟨files, .terminal .other⟩ = none := rfl
    rw [hnone, Option.toList_none, List.append_nil]
    exact h
  · exact h.call (.message files told)

theorem failure_apply (r : ScreenRun σ) (files : Files.Tree) (e : ScreenEvent) :
    (r.apply files e).failure = r.failure := by
  rcases e with (k | ⟨width, height⟩ | _) | m
  all_goals rfl

theorem draw_eq (hdrawing : ∀ n frame, drawing n frame = none) (r : ScreenRun σ) :
    r.draw drawing = { r with frames := r.frames ++ [IsWidget.view r.widget] } := by
  rw [draw, hdrawing]

/-- **What the loop comes to.**  The events are applied up to the first IsWidget.after which the
widget is done, and the widget is drawn last. -/
theorem Tells.follow (hdrawing : ∀ n frame, drawing n frame = none) (h : r.Tells w calls)
    (hfailure : r.failure = none) (moments : List Moment) : ∃ applied,
      UpTo (fun past => IsWidget.isDone (IsWidget.after w (calls ++ screenCalls past)) = true)
          moments applied ∧
        (r.follow drawing moments).Tells w (calls ++ screenCalls applied) ∧
        (r.follow drawing moments).failure = none ∧
        (r.follow drawing moments).frames.getLast? =
          some (IsWidget.view (r.follow drawing moments).widget) := by
  induction moments generalizing r calls with
  | nil =>
    refine ⟨[], UpTo.nil, ?_⟩
    rw [follow, draw_eq hdrawing, screenCalls, List.filterMap_nil, List.append_nil]
    exact ⟨⟨h.widget_eq, h.started_eq⟩, hfailure, List.getLast?_concat⟩
  | cons m moments ih =>
    rw [follow, draw_eq hdrawing]
    dsimp only
    rw [hfailure, Option.isSome_none, Bool.false_or]
    by_cases hdone : IsWidget.isDone r.widget = true
    · rw [if_pos hdone]
      refine ⟨[], UpTo.of_over ?_ _, ?_⟩
      · rw [screenCalls, List.filterMap_nil, List.append_nil, ← h.widget_eq]
        exact hdone
      · rw [screenCalls, List.filterMap_nil, List.append_nil]
        exact ⟨⟨h.widget_eq, h.started_eq⟩, rfl, List.getLast?_concat⟩
    · rw [if_neg hdone]
      have hopen : ¬ IsWidget.isDone (IsWidget.after w (calls ++ screenCalls [])) = true := by
        rw [screenCalls, List.filterMap_nil, List.append_nil, ← h.widget_eq]
        exact hdone
      have hdrawn : Tells w calls { r with frames := r.frames ++ [IsWidget.view r.widget] } :=
        ⟨h.widget_eq, h.started_eq⟩
      have hcalls (past : List Moment) : calls ++ screenCalls (m :: past) =
          calls ++ m.call?.toList ++ screenCalls past := by
        rw [screenCalls, List.filterMap_cons, List.append_assoc]
        cases m.call? <;> rfl
      obtain ⟨applied, hupTo, htells, hrest⟩ :=
        ih (hdrawn.apply m) ((failure_apply _ _ _).trans hfailure)
      refine ⟨m :: applied, UpTo.cons hopen ?_, ?_, ?_⟩
      · simpa only [hcalls] using hupTo
      · simpa only [hcalls, hfailure] using htells
      · simpa only [hfailure] using hrest

end ScreenRun
end Widget

/-! ## Both loops -/

/-- **Loops are folds**, as long as the screen can be drawn.

* However the events for a session come in batches, it is told its size and then the events
  one at a time, up to the first after which it is finished and no further.  What widgets
  ask for is started once, each with the generation that the session has right after the
  event, and the last frame shows the final state.
* A widget on the whole screen, of whatever kind, is told its size, asked what it needs, and
  then told the events up to the first after which it is done, whatever happens to the files
  meanwhile.  The run comes to what the widget yields then, and to a dismissal if all events
  have come before; the last frame shows the widget as it is then. -/
theorem loops_fold {drawing : Nat → Text → Option Text}
    (hdrawing : ∀ n frame, drawing n frame = none) (width height : Nat) :
    (∀ {σ : Type} [IsSession σ] (s : σ) (batches : List Session.Batch),
      let start := Session.Event.resize width height
      let run := Session.drive drawing s width height batches
      ∃ applied,
        UpTo (fun past => IsSession.isFinished (Session.after s (start :: past)) = true)
          (batches.flatMap Session.Batch.events) applied ∧
        run.session = Session.after s (start :: applied) ∧
        run.effects = Session.effects s (start :: applied) ∧
        run.started = Session.commands s (start :: applied) ∧
        run.failure = none ∧ run.frames.getLast? = some (IsSession.view run.session)) ∧
    (∀ {σ : Type} [IsWidget σ] (w : σ) (moments : List Widget.Moment),
      let calls := fun past => [.resize width height, .init] ++ Widget.screenCalls past
      let run := Widget.runOnScreen drawing w width height moments
      ∃ applied,
        UpTo (fun past => IsWidget.isDone (IsWidget.after w (calls past)) = true)
          moments applied ∧
        run.widget = IsWidget.after w (calls applied) ∧
        run.started = IsWidget.requests w (calls applied) ∧
        (IsWidget.isDone run.widget = true →
          run.result = (IsWidget.result run.widget).mapError Failure.ofWidget) ∧
        (IsWidget.isDone run.widget = false →
          applied = moments ∧ run.result = .error (.ofWidget .cancelled)) ∧
        run.frames.getLast? = some (IsWidget.view run.widget)) := by
  constructor
  · intro σ _ s batches start run
    obtain ⟨k, hdelivers, hall⟩ := Session.drive_delivers drawing s width height batches
    rw [hall hdrawing, List.take_length] at hdelivers
    obtain ⟨hfailure, hframe⟩ :=
      Session.Run.lastFrame_loop hdrawing (Session.Run.apply { session := s } start) batches
    exact ⟨_, Session.upTo_heard _ _, hdelivers.session_eq, hdelivers.effects_eq,
      hdelivers.started_eq, hfailure, hframe⟩
  · intro σ _ w moments calls run
    obtain ⟨applied, hupTo, htells, hfailure, hframe⟩ :=
      (Widget.ScreenRun.tells_start w width height).follow hdrawing rfl moments
    have hresult : run.result = if IsWidget.isDone run.widget = true then
        (IsWidget.result run.widget).mapError Failure.ofWidget
        else .error (.ofWidget .cancelled) := by
      have hnone : run.failure = none := hfailure
      rw [Widget.ScreenRun.result, hnone]
    refine ⟨applied, hupTo, htells.widget_eq, htells.started_eq, fun hdone => ?_, fun hopen => ?_,
      hframe⟩
    · rw [hresult, if_pos hdone]
    · rw [hresult, if_neg (Bool.eq_false_iff.mp hopen)]
      refine ⟨hupTo.over_or_all.resolve_left fun hover => ?_, rfl⟩
      rw [← htells.widget_eq] at hover
      exact Bool.false_ne_true (hopen.symm.trans hover)

/-- A session that is left in the middle of a batch while a widget is waiting for a command,
and a field that is submitted before the last event. -/
theorem loops_fold_left :
    let drawing : Nat → Text → Option Text := fun _ _ => none
    let theme : Modal.Theme := ⟨⟨26, 26, 46⟩, ⟨124, 58, 237⟩, ⟨124, 58, 237⟩⟩
    let spinner : Session.Event := .requested
      { number := 7
        request := { component := "spin".toList
                     options := .object [("command".toList, .array [.string ['x']])] } }
    let quit : Session.Event := .key { code := .char 'q' }
    let batches : List Session.Batch :=
      [⟨spinner, [.output ['a'], .exited (.exited 0 .zero), quit, .output ['b']]⟩, ⟨quit, []⟩]
    let session := Session.Hosted.make {} theme {} .working
    let run := Session.drive drawing session 20 6 batches
    let press : KeyCode → Widget.Moment := fun code => ⟨{}, .terminal (.key { code })⟩
    let field := Widget.input (Widget.Input.make {} Modal.Palette.standalone)
    let typed := Widget.runOnScreen drawing field 20 4
      [press (.char 'h'), press (.char 'i'), press .enter, press (.char 'x')]
    (∀ n frame, drawing n frame = none) ∧ run.session.finished = true ∧
      run.started.map Prod.fst = [1] ∧ run.frames.getLast? = some run.session.view ∧
      typed.result = .ok (.text ['h', 'i']) ∧ typed.frames.getLast? = some [] := by
  intro drawing theme spinner quit batches session run press field typed
  have hdrawing : ∀ n frame, drawing n frame = none := fun _ _ => rfl
  obtain ⟨-, -, -, -, -, -, hframe⟩ := (loops_fold hdrawing 20 6).1 session batches
  obtain ⟨-, -, -, -, hresult, -, hlast⟩ := (loops_fold hdrawing 20 4).2 field
    [press (.char 'h'), press (.char 'i'), press .enter, press (.char 'x')]
  exact ⟨hdrawing, rfl, rfl, hframe, (hresult rfl).trans rfl, hlast.trans rfl⟩

end TerminalDialogs
