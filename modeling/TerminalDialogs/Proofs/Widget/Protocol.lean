import TerminalDialogs.Proofs.Widget.Kinds

/-!
# The protocol of widgets

A widget is made from options and then initialised, told messages and given
sizes, in any order and as often as its owner likes.  `obeys_protocol` says what
its owner can rely on after any such history: who can dismiss the widget, what a
new size leaves alone, and that nothing happens any more once it is done.

Everything but the cursors is read off one call.  A call keeps the kind and, if
the widget is done, everything that can be seen of it (`call_of_done`); a call
that dismisses an open widget is a pressed key that means to
(`exists_key_of_cancelled`).  The cursors are the invariant `Aimed`, without
which a new size could change what a list yields (`value_setSize`).
-/

namespace TerminalDialogs
namespace Widget

open Files (Tree)

/-! ## Histories -/

/-- What the owner of a widget does with it. -/
inductive Call where
  /-- The widget is asked what it needs at first. -/
  | init
  /-- The widget is told something, while the files are as given. -/
  | message (tree : Tree) (m : Message)
  /-- The widget gets another size. -/
  | resize (width height : Nat)

/-- The widget after a call. -/
def call (w : Widget) : Call → Widget
  | .init => w
  | .message tree m => (w.update tree m).1
  | .resize width height => w.setSize width height

/-- The widget after calls. -/
def after (w : Widget) (calls : List Call) : Widget := calls.foldl call w

@[simp] theorem after_nil (w : Widget) : w.after [] = w := rfl

@[simp] theorem after_cons (w : Widget) (c : Call) (calls : List Call) :
    w.after (c :: calls) = (w.call c).after calls := rfl

theorem after_append (w : Widget) (a b : List Call) : w.after (a ++ b) = (w.after a).after b :=
  List.foldl_append

/-- What the widget asks for on a call. -/
def request (w : Widget) : Call → Option Effect
  | .init => w.init
  | .message tree m => (w.update tree m).2
  | .resize _ _ => none

/-- What the widget asks for on calls, in order. -/
def requests (w : Widget) : List Call → List Effect
  | [] => []
  | c :: calls => (w.request c).toList ++ (w.call c).requests calls

theorem requests_append (w : Widget) (a b : List Call) :
    w.requests (a ++ b) = w.requests a ++ (w.after a).requests b := by
  induction a generalizing w with
  | nil => rfl
  | cons c a ih => rw [List.cons_append, requests, ih, requests, List.append_assoc]; rfl

/-- What calls of some kind keep is kept by a history of such calls. -/
theorem after_invariant_of {P : Widget → Prop} {Q : Call → Prop}
    (hcall : ∀ w c, Q c → P w → P (w.call c)) {w : Widget} (h : P w) {calls : List Call}
    (hcalls : ∀ c ∈ calls, Q c) : P (w.after calls) := by
  induction calls generalizing w with
  | nil => exact h
  | cons c calls ih =>
    rw [List.forall_mem_cons] at hcalls
    exact ih (hcall w c hcalls.1 h) hcalls.2

/-- What every call keeps is kept by a history. -/
theorem after_invariant {P : Widget → Prop} (hcall : ∀ w c, P w → P (w.call c)) {w : Widget}
    (h : P w) (calls : List Call) : P (w.after calls) :=
  after_invariant_of (fun w c _ => hcall w c) h fun _ _ => trivial

/-! ## What belongs to a kind -/

/-- The values of the shape that belongs to a kind, with what stands for them on
the wire. -/
inductive Shaped : Kind → Value → Json → Prop where
  | input (s : Text) : Shaped .input (.text s) (one "value" (.string s))
  | confirm (b : Bool) : Shaped .confirm (.bool b) (one "confirmed" (.bool b))
  | choose (items : List Text) : Shaped .choose (.list items) (one "selected" (Json.ofTexts items))
  | filter (items : List Text) : Shaped .filter (.list items) (one "selected" (Json.ofTexts items))
  | file (s : Text) : Shaped .file (.text s) (one "path" (.string s))
  | write (s : Text) : Shaped .write (.text s) (one "value" (.string s))
  | spin (o : Output) : Shaped .spin (.output o) o.wire
  | pager : Shaped .pager .nothing (.object [])
  | table (selection : Selection) : Shaped .table (.row selection) selection.wire

theorem shaped_value (w : Widget) : Shaped w.kind w.value (wire w.kind w.value) := by
  cases w <;> constructor

/-- Whether a key dismisses a widget of a kind. -/
def Dismisses (kind : Kind) (k : Key) : Prop :=
  k.isPress = true ∧ (k.isCancel = true ∨ kind = .table ∧ k.code = .char 'q')

/-- What the owner of a widget of a kind can rely on when calls have led from
one widget to another. -/
structure Protocol (kind : Kind) (start : Widget) (calls : List Call) (w : Widget) : Prop where
  /-- The widget is of the kind that it was made of. -/
  kind_eq : w.kind = kind
  /-- A widget that was dismissed is done. -/
  done_of_cancelled : w.isCancelled = true → w.isDone = true
  /-- It yields an error if it was dismissed, and only then. -/
  result_cancelled : w.result = .error .cancelled ↔ w.isCancelled = true
  /-- Only a pressed key dismisses a widget, and only one that is not done. -/
  dismissed : w.isCancelled = true → ∃ before tree k later,
    calls = before ++ .message tree (.key k) :: later ∧ (start.after before).isDone = false ∧
      Dismisses kind k
  /-- Key events that are no presses do nothing. -/
  unpressed : ∀ tree k, k.isPress = false → w.update tree (.key k) = (w, none)
  /-- Another size changes neither the phase nor the result. -/
  resized : ∀ width height, (w.setSize width height).isDone = w.isDone ∧
    (w.setSize width height).isCancelled = w.isCancelled ∧
    (w.setSize width height).result = w.result
  /-- A widget that is done shows nothing and asks for nothing. -/
  quiet : w.isDone = true → w.view = [] ∧ ∀ tree m, (w.update tree m).2 = none
  /-- A widget that is done stays done, with the same result. -/
  stays : w.isDone = true → ∀ later, (w.after later).isDone = true ∧
    (w.after later).isCancelled = w.isCancelled ∧ (w.after later).result = w.result
  /-- A widget that was submitted yields a value of its kind's shape. -/
  submitted : w.isDone = true → w.isCancelled = false →
    ∃ value, w.result = .ok value ∧ Shaped kind value (wire kind value)

/-! ## One call -/

theorem kind_setSize (w : Widget) (width height : Nat) :
    (w.setSize width height).kind = w.kind := by
  cases w <;> rfl

theorem kind_handleKey (tree : Tree) (k : Key) (w : Widget) :
    (w.handleKey tree k).kind = w.kind := by
  cases w <;> rfl

theorem kind_tick (w : Widget) : w.tick.1.kind = w.kind := by
  cases w <;> rfl

theorem kind_finish (output : Output) (w : Widget) : (w.finish output).kind = w.kind := by
  cases w <;> rfl

theorem update_of_done {w : Widget} (h : w.isDone = true) (tree : Tree) (m : Message) :
    w.update tree m = (w, none) := by
  unfold update
  rw [if_pos h]

theorem update_of_open {w : Widget} (h : ¬ w.isDone = true) (tree : Tree) (m : Message) :
    w.update tree m =
      match m with
      | .key k => if k.isPress = true then (w.handleKey tree k, none) else (w, none)
      | .tick => w.tick
      | .finished output => (w.finish output, none) := by
  rcases m with k | _ | output
  · exact if_neg h
  · exact if_neg h
  · exact if_neg h

theorem update_of_unpressed (w : Widget) (tree : Tree) {k : Key} (h : k.isPress = false) :
    w.update tree (.key k) = (w, none) := by
  simp [update, h]

theorem kind_update (w : Widget) (tree : Tree) (m : Message) :
    (w.update tree m).1.kind = w.kind := by
  fun_cases Widget.update tree m w
  · rfl
  · exact kind_handleKey tree _ w
  · rfl
  · exact kind_tick w
  · exact kind_finish _ w

theorem kind_call (w : Widget) (c : Call) : (w.call c).kind = w.kind := by
  rcases c with _ | ⟨tree, m⟩ | ⟨width, height⟩
  · rfl
  · exact kind_update w tree m
  · exact kind_setSize w width height

theorem kind_after (w : Widget) (calls : List Call) : (w.after calls).kind = w.kind :=
  after_invariant (P := fun w' => w'.kind = w.kind) (fun w' c h => (kind_call w' c).trans h) rfl
    calls

/-! ## Cursors -/

/-- The cursor of a list whose length can change stands on one of its items. -/
def Aimed : Widget → Prop
  | .filter w => w.Aimed
  | .table w => w.Aimed
  | _ => True

theorem Aimed.setSize {w : Widget} (h : w.Aimed) (width height : Nat) :
    (w.setSize width height).Aimed := by
  cases w
  case filter w => exact Filter.aimed_move _ _
  case table w => exact Table.aimed_move _ _
  all_goals trivial

theorem Aimed.handleKey {w : Widget} (h : w.Aimed) (tree : Tree) (k : Key) :
    (w.handleKey tree k).Aimed := by
  cases w
  case filter w => exact Filter.Aimed.handleKey h k
  case table w => exact Table.Aimed.handleKey h k
  all_goals trivial

theorem Aimed.update {w : Widget} (h : w.Aimed) (tree : Tree) (m : Message) :
    (w.update tree m).1.Aimed := by
  fun_cases Widget.update tree m w
  · exact h
  · exact h.handleKey tree _
  · exact h
  · cases w <;> exact h
  · cases w <;> exact h

theorem Aimed.call {w : Widget} (h : w.Aimed) (c : Call) : (w.call c).Aimed := by
  rcases c with _ | ⟨tree, m⟩ | ⟨width, height⟩
  · exact h
  · exact h.update tree m
  · exact h.setSize width height

theorem Aimed.after {w : Widget} (h : w.Aimed) (calls : List Call) : (w.after calls).Aimed :=
  after_invariant (fun _ c hw => hw.call c) h calls

/-- **A new size leaves what a widget yields alone.**  The cursors of lists stay
where they are, because they are inside. -/
theorem value_setSize {w : Widget} (h : w.Aimed) (width height : Nat) :
    (w.setSize width height).value = w.value := by
  cases w
  case choose w =>
    have hcursor : (w.setSize width height).position.cursor = w.position.cursor :=
      ListCursor.cursor_reveal _ _
    show Value.list _ = Value.list _
    rw [Choose.chosenItems, hcursor]
    rfl
  case filter w =>
    have hcursor : (w.setSize width height).position.cursor = w.position.cursor :=
      ListCursor.Within.cursor_move h _
    show Value.list _ = Value.list _
    rw [Filter.chosenItems, hcursor]
    rfl
  case table w =>
    have hcursor : (w.setSize width height).position.cursor = w.position.cursor :=
      ListCursor.Within.cursor_move h _
    show Value.row _ = Value.row _
    rw [Table.selection, hcursor]
    rfl
  case write w =>
    show Value.text _ = Value.text _
    rw [Write.setSize, Write.text_reveal]
  all_goals rfl

theorem phase_setSize (w : Widget) (width height : Nat) :
    (w.setSize width height).phase = w.phase := by
  cases w
  case write w => exact Write.phase_reveal _
  all_goals rfl

theorem result_eq {w w' : Widget} (hphase : w'.phase = w.phase) (hvalue : w'.value = w.value) :
    w'.isDone = w.isDone ∧ w'.isCancelled = w.isCancelled ∧ w'.result = w.result := by
  have hcancelled : w'.isCancelled = w.isCancelled := congrArg Phase.isCancelled hphase
  refine ⟨congrArg Phase.isDone hphase, hcancelled, ?_⟩
  rw [result, result, hcancelled, hvalue]

/-! ## Widgets that are done -/

/-- A call neither opens a widget that is done nor changes what it yields. -/
theorem call_of_done {w : Widget} (hdone : w.isDone = true) (haimed : w.Aimed) (c : Call) :
    (w.call c).phase = w.phase ∧ (w.call c).value = w.value := by
  rcases c with _ | ⟨tree, m⟩ | ⟨width, height⟩
  · exact ⟨rfl, rfl⟩
  · rw [call, update_of_done hdone]
    exact ⟨rfl, rfl⟩
  · exact ⟨phase_setSize w width height, value_setSize haimed width height⟩

theorem after_of_done {w : Widget} (hdone : w.isDone = true) (haimed : w.Aimed)
    (calls : List Call) : (w.after calls).phase = w.phase ∧ (w.after calls).value = w.value := by
  induction calls generalizing w with
  | nil => exact ⟨rfl, rfl⟩
  | cons c calls ih =>
    obtain ⟨hphase, hvalue⟩ := call_of_done hdone haimed c
    have hdone' : (w.call c).isDone = true := (congrArg Phase.isDone hphase).trans hdone
    obtain ⟨hphase', hvalue'⟩ := ih hdone' (haimed.call c)
    exact ⟨hphase'.trans hphase, hvalue'.trans hvalue⟩

/-! ## Who dismisses a widget -/

/-- A key that does not dismiss a widget leaves it open or submits it. -/
theorem onward_handleKey {w : Widget} {k : Key} (hk : ¬ k.isCancel = true)
    (hq : ¬ (w.kind = .table ∧ k.code = .char 'q')) (tree : Tree) :
    w.phase.Onward (w.handleKey tree k).phase := by
  cases w
  case input w => exact w.onward_handleKey hk
  case confirm w => exact w.onward_handleKey hk
  case choose w => exact w.onward_handleKey hk
  case filter w => exact w.onward_handleKey hk
  case file w => exact w.onward_handleKey tree hk
  case write w => exact w.onward_handleKey hk
  case spin w => exact w.onward_handleKey hk
  case pager w => exact w.onward_handleKey hk
  case table w => exact w.onward_handleKey hk fun h => hq ⟨rfl, h⟩

theorem Phase.Onward.isCancelled {before after : Phase} (h : before.Onward after)
    (hafter : after.isCancelled = true) : before.isCancelled = true := by
  rcases h with rfl | rfl
  · exact hafter
  · exact nomatch hafter

theorem onward_tick (w : Widget) : w.phase.Onward w.tick.1.phase := by
  cases w <;> exact Phase.Onward.refl _

theorem onward_finish (output : Output) (w : Widget) : w.phase.Onward (w.finish output).phase := by
  cases w
  case spin w => exact Phase.onward_submitted _
  all_goals exact Phase.Onward.refl _

/-- **A call that dismisses a widget** is a pressed key that means to, and the
widget was open. -/
theorem exists_key_of_cancelled {w : Widget} (hw : w.isCancelled = false) {c : Call}
    (hc : (w.call c).isCancelled = true) :
    w.isDone = false ∧ ∃ tree k, c = .message tree (.key k) ∧ Dismisses w.kind k := by
  have hkeeps {w' : Widget} (h : w.phase.Onward w'.phase) : ¬ w'.isCancelled = true := fun hw' =>
    absurd (h.isCancelled hw') (Bool.eq_false_iff.mp hw)
  rcases c with _ | ⟨tree, m⟩ | ⟨width, height⟩
  · exact absurd hc (hkeeps (Phase.Onward.refl _))
  · by_cases hdone : w.isDone = true
    · rw [call, update_of_done hdone] at hc
      exact absurd hc (hkeeps (Phase.Onward.refl _))
    refine ⟨Bool.eq_false_iff.mpr hdone, ?_⟩
    rw [call, update_of_open hdone] at hc
    rcases m with k | _ | output
    · refine ⟨tree, k, rfl, ?_⟩
      by_cases hpress : k.isPress = true
      · refine ⟨hpress, ?_⟩
        by_cases hk : k.isCancel = true
        · exact Or.inl hk
        by_cases hq : w.kind = .table ∧ k.code = .char 'q'
        · exact Or.inr hq
        · simp only [hpress, if_true] at hc
          exact absurd hc (hkeeps (onward_handleKey hk hq tree))
      · simp only [hpress] at hc
        exact absurd hc (hkeeps (Phase.Onward.refl _))
    · exact absurd hc (hkeeps (onward_tick w))
    · exact absurd hc (hkeeps (onward_finish output w))
  · rw [call, isCancelled, phase_setSize] at hc
    exact absurd hc (hkeeps (Phase.Onward.refl _))

/-- A widget that was dismissed on the way was dismissed by one of the calls. -/
theorem exists_dismissal {w : Widget} (hw : w.isCancelled = false) {calls : List Call}
    (h : (w.after calls).isCancelled = true) : ∃ before tree k later,
      calls = before ++ .message tree (.key k) :: later ∧ (w.after before).isDone = false ∧
        Dismisses w.kind k := by
  induction calls generalizing w with
  | nil => exact absurd h (Bool.eq_false_iff.mp hw)
  | cons c calls ih =>
    by_cases hc : (w.call c).isCancelled = true
    · obtain ⟨hopen, tree, k, rfl, hk⟩ := exists_key_of_cancelled hw hc
      exact ⟨[], tree, k, calls, rfl, hopen, hk⟩
    · obtain ⟨before, tree, k, later, rfl, hopen, hk⟩ := ih (Bool.eq_false_iff.mpr hc) h
      rw [kind_call] at hk
      exact ⟨c :: before, tree, k, later, rfl, hopen, hk⟩

/-! ## Widgets that are made -/

/-- What a widget is like when it has just been made. -/
structure Fresh (kind : Kind) (w : Widget) : Prop where
  kind_eq : w.kind = kind
  cancelled_eq : w.isCancelled = false
  aimed : w.Aimed

/-- A widget that could be made was made from options that could be read. -/
theorem fresh_of_bind {σ : Type} {kind : Kind} {options : Except Error σ} (build : σ → Widget)
    (hbuild : ∀ o, Fresh kind (build o)) {w : Widget}
    (h : (options >>= fun o => pure (build o)) = .ok w) : Fresh kind w := by
  rcases options with e | o
  · exact nomatch h
  · obtain rfl : build o = w := Except.ok.inj h
    exact hbuild o

theorem Choose.phase_make (o : Options.Choose) (p : Modal.Palette) : (make o p).phase = .open := by
  unfold make
  dsimp only
  split
  · rfl
  · rfl

theorem Filter.phase_make (o : Options.Filter) (p : Modal.Palette) :
    Phase.Onward .open (make o p).phase := by
  fun_cases Filter.make o p
  · exact Phase.onward_submitted _
  · exact Phase.Onward.refl _

theorem File.phase_make (tree : Tree) (o : Options.File) (p : Modal.Palette) :
    (make tree o p).phase = .open :=
  phase_openDirectory tree _ _

theorem Spin.phase_make (o : Options.Spin) (p : Modal.Palette) :
    Phase.Onward .open (make o p).phase := by
  show Phase.Onward .open (if o.command.isEmpty then .submitted else .open)
  split
  · exact Phase.onward_submitted _
  · exact Phase.Onward.refl _

/-- Nobody has dismissed a widget that has just been made. -/
theorem Phase.Onward.not_cancelled {after : Phase} (h : Phase.Onward .open after) :
    after.isCancelled = false := by
  rcases h with rfl | rfl
  · rfl
  · rfl

theorem fresh_of_make {tree : Tree} {kind : Kind} {options : Json} {p : Modal.Palette} {w : Widget}
    (h : make tree kind options p = .ok w) : Fresh kind w := by
  cases kind
  case input =>
    exact fresh_of_bind (fun o => .input (Input.make o p)) (fun o => ⟨rfl, rfl, trivial⟩) h
  case confirm =>
    exact fresh_of_bind (fun o => .confirm (Confirm.make o p)) (fun o => ⟨rfl, rfl, trivial⟩) h
  case choose =>
    refine fresh_of_bind (fun o => .choose (Choose.make o p)) (fun o => ⟨rfl, ?_, trivial⟩) h
    exact congrArg Phase.isCancelled (Choose.phase_make o p)
  case filter =>
    exact fresh_of_bind (fun o => .filter (Filter.make o p))
      (fun o => ⟨rfl, (Filter.phase_make o p).not_cancelled, Filter.aimed_make o p⟩) h
  case file =>
    refine fresh_of_bind (fun o => .file (File.make tree o p)) (fun o => ⟨rfl, ?_, trivial⟩) h
    exact congrArg Phase.isCancelled (File.phase_make tree o p)
  case write =>
    exact fresh_of_bind (fun o => .write (Write.make o p)) (fun o => ⟨rfl, rfl, trivial⟩) h
  case spin =>
    exact fresh_of_bind (fun o => .spin (Spin.make o p))
      (fun o => ⟨rfl, (Spin.phase_make o p).not_cancelled, trivial⟩) h
  case pager =>
    exact fresh_of_bind (fun o => .pager (Pager.make o p)) (fun o => ⟨rfl, rfl, trivial⟩) h
  case table =>
    exact fresh_of_bind (fun o => .table (Table.make o p))
      (fun o => ⟨rfl, rfl, Table.aimed_make o p⟩) h

/-- **All widgets obey the protocol**, whatever options they were made from and
whatever was done with them. -/
theorem obeys_protocol {tree : Tree} {kind : Kind} {options : Json} {p : Modal.Palette}
    {start : Widget} (hmake : make tree kind options p = .ok start) (calls : List Call) :
    Protocol kind start calls (start.after calls) := by
  obtain ⟨hkind, hfresh, haimed⟩ := fresh_of_make hmake
  have haimed' : (start.after calls).Aimed := haimed.after calls
  have hkind' : (start.after calls).kind = kind := (kind_after start calls).trans hkind
  constructor
  case kind_eq => exact hkind'
  case done_of_cancelled => exact Phase.isDone_of_isCancelled _
  case result_cancelled =>
    rw [result]
    split
    · next h => exact ⟨fun _ => h, fun _ => rfl⟩
    · next h => exact ⟨(nomatch ·), fun hcancelled => absurd hcancelled h⟩
  case dismissed =>
    rw [← hkind]
    exact exists_dismissal hfresh
  case unpressed => exact fun tree k h => update_of_unpressed _ tree h
  case resized =>
    exact fun width height => result_eq (phase_setSize _ width height)
      (value_setSize haimed' width height)
  case quiet =>
    intro hdone
    refine ⟨?_, fun tree m => ?_⟩
    · rw [view, if_pos hdone]
    · rw [update_of_done hdone]
  case stays =>
    intro hdone later
    obtain ⟨hphase, hvalue⟩ := after_of_done hdone haimed' later
    obtain ⟨hdone', hrest⟩ := result_eq hphase hvalue
    exact ⟨hdone'.trans hdone, hrest⟩
  case submitted =>
    intro _ hcancelled
    refine ⟨(start.after calls).value, ?_, ?_⟩
    · rw [result, hcancelled]
      rfl
    · have hshaped := shaped_value (start.after calls)
      rwa [hkind'] at hshaped

/-- A table that is made smaller and dismissed with Q yields an error for good. -/
theorem obeys_protocol_table :
    let options := Json.object
      [("rows".toList, .array [.array [.string "a".toList], .array [.string "b".toList]]),
        ("selected_index".toList, .number (.natural 1))]
    let calls : List Call :=
      [.init, .resize 40 3, .message {} (.key { code := .down }),
        .message {} (.key { code := .char 'q' })]
    ∃ table, make {} .table options Modal.Palette.standalone = .ok table ∧
      table.isDone = false ∧ (table.after calls).result = .error .cancelled ∧
      (table.after calls).view = [] := by
  intro options calls
  obtain ⟨table, hmake, hopen, hcancelled⟩ : ∃ table,
      make {} .table options Modal.Palette.standalone = .ok table ∧ table.isDone = false ∧
        (table.after calls).isCancelled = true := ⟨_, rfl, rfl, rfl⟩
  have hprotocol := obeys_protocol hmake calls
  have hdone : (table.after calls).isDone = true := hprotocol.done_of_cancelled hcancelled
  exact ⟨table, hmake, hopen, hprotocol.result_cancelled.mpr hcancelled, (hprotocol.quiet hdone).1⟩

end Widget
end TerminalDialogs
