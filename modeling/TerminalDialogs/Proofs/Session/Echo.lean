import TerminalDialogs.Proofs.Session.PipedKeys

/-!
# What a session over pipes echoes

A command behind pipes may show what it reads or not, so its session echoes what is typed
and takes the echo back when the command writes something.  Nothing is to be shown twice
and nothing lost, whatever the order in which keys, output and the end come.

What should be in the transcript is told from the events alone.  The line that is typed is
what the keys since the last Enter, the last output and the end of the command spell
(`lineOf`); the text consists of one entry for each event, in order: output, the summary of
an end, and with Enter the line (`entries`).  A session that echoes is *faithful* to its
events if its transcript is just this (`Faithful`), and every event keeps it so
(`Faithful.handle`), as long as no write fails and nobody quits by force.  What is written
to the command is the same with and without the echo (`written_effects`).
-/

namespace TerminalDialogs

namespace Key

/-- What a key makes of the line that is typed: a character or a tab is put at its end, and
Backspace removes the last character, if there is one. -/
def spell (line : Text) (k : Key) : Text :=
  match k.code with
  | .char c => if k.isPlain then line ++ [c] else line
  | .tab => line ++ ['\t']
  | .backspace => line.dropLast
  | _ => line

theorem spell_of_not_isTyping {k : Key} (h : k.isTyping = false) (line : Text) :
    k.code ≠ .enter ∧ k.spell line = line := by
  obtain ⟨code, ctrl, alt, shift, action⟩ := k
  cases code <;> first | exact ⟨KeyCode.noConfusion, rfl⟩ | cases h

end Key

namespace Session

/-- After Enter, output and the end of the command a new line begins. -/
def Event.endsLine : Event → Bool
  | .key k => k.code == .enter
  | .output _ | .exited _ => true
  | _ => false

/-- Whether the text is shown anew: after output, the end of the command and the keys that
are handled while it is running. -/
def Event.refreshes : Event → Bool
  | .key k => k.isTyping
  | .output _ | .exited _ => true
  | _ => false

/-- Whether an event is the key that quits by force. -/
def Event.isForceQuit : Event → Bool
  | .key k => k.isForceQuit
  | _ => false

/-- The keys since the line began. -/
def lineKeys (past : List Event) : List Key :=
  (past.reverse.takeWhile fun e => !e.endsLine).reverse.filterMap Event.key?

/-- The line that was typed and not yet entered; when the command has ended, nothing is
typed any more. -/
def lineOf (past : List Event) : Text :=
  if past.any Event.isExit then [] else (lineKeys past).foldl Key.spell []

/-- What an event adds to the text. -/
def entry (past : List Event) : Event → Text
  | .key k => if k.code = .enter ∧ past.any Event.isExit = false then lineOf past ++ ['\n'] else []
  | .output text => text
  | .exited outcome => outcome.summary
  | _ => []

/-- What events add to the text, one after the other. -/
def entries (past : List Event) : List Event → Text
  | [] => []
  | e :: events => entry past e ++ entries (past ++ [e]) events

/-! ## One event more -/

theorem entries_append (past a b : List Event) :
    entries past (a ++ b) = entries past a ++ entries (past ++ a) b := by
  induction a generalizing past with
  | nil => rw [List.append_nil]; rfl
  | cons e a ih =>
    rw [List.cons_append, entries, ih, entries, List.append_assoc, List.append_assoc]
    rfl

theorem lineKeys_concat (past : List Event) (e : Event) :
    lineKeys (past ++ [e]) = if e.endsLine then [] else lineKeys past ++ e.key?.toList := by
  rw [lineKeys, List.reverse_append, List.reverse_singleton, List.singleton_append,
    List.takeWhile_cons]
  cases e.endsLine with
  | true => rfl
  | false =>
    rw [Bool.not_false, if_pos rfl, if_neg Bool.false_ne_true, List.reverse_cons,
      List.filterMap_append, ← lineKeys, List.filterMap_cons, List.filterMap_nil]
    cases e.key? with
    | none => rfl
    | some k => rfl

theorem any_isExit_concat (past : List Event) (e : Event) :
    (past ++ [e]).any Event.isExit = (past.any Event.isExit || e.isExit) := by
  rw [List.any_append, List.any_cons, List.any_nil, Bool.or_false]

theorem lineOf_of_exited {past : List Event} (h : past.any Event.isExit = true) :
    lineOf past = [] := by
  rw [lineOf, if_pos h]

theorem lineOf_concat_of_exited {past : List Event} (h : past.any Event.isExit = true)
    (e : Event) : lineOf (past ++ [e]) = lineOf past := by
  rw [lineOf_of_exited h, lineOf_of_exited (by rw [any_isExit_concat, h, Bool.true_or])]

theorem lineOf_concat_of_endsLine (past : List Event) {e : Event} (h : e.endsLine = true) :
    lineOf (past ++ [e]) = [] := by
  rw [lineOf, lineKeys_concat, if_pos h]
  split
  · rfl
  · rfl

/-- While the command is running, a key is put to the line unless it ends it. -/
theorem lineOf_concat {past : List Event} {e : Event} (hpast : past.any Event.isExit = false)
    (he : e.endsLine = false) :
    lineOf (past ++ [e]) = e.key?.toList.foldl Key.spell (lineOf past) := by
  have hexit : e.isExit = false := by
    cases e <;> first | rfl | cases he
  rw [lineOf, any_isExit_concat, hpast, hexit, lineKeys_concat, he, lineOf, hpast]
  exact List.foldl_append

theorem lineOf_concat_of_no_key (past : List Event) {e : Event} (he : e.endsLine = false)
    (hkey : e.key? = none) : lineOf (past ++ [e]) = lineOf past := by
  cases hpast : past.any Event.isExit with
  | true => exact lineOf_concat_of_exited hpast e
  | false =>
    rw [lineOf_concat hpast he, hkey]
    rfl

namespace Piped

/-! ## Keys while the command is running -/

/-- The command is running, and whatever is written to it arrives. -/
structure Takes (s : Piped) : Prop where
  stage : s.stage = .executing
  input : ∃ writer, s.input = some writer ∧ ∀ n bytes, writer.accepts n bytes = true

/-- With the echo a key leaves the line in the transcript. -/
theorem typed?_of_echo {s : Piped} (h : s.echo = true) (k : Key) :
    s.typed? k =
      if k.isTyping then
        some (k.piped?, if k.code = .enter then s.transcript.enter
          else { s.transcript with pending := k.spell s.transcript.pending })
      else none := by
  obtain ⟨code, ctrl, alt, shift, action⟩ := k
  have hechoed (c : Char) : s.echoed c = s.transcript.type c := if_pos h
  cases code
  case char c =>
    cases ctrl
    · cases alt
      · exact congrArg (fun t => some (some (Utf8.encodeChar c), t)) (hechoed c)
      · rfl
    · rfl
  case tab => exact congrArg (fun t => some (some [0x09], t)) (hechoed '\t')
  all_goals rfl

theorem sent_of_takes {s : Piped} (h : s.Takes) (bytes? : Option (List UInt8)) :
    ∃ writer : Writer, (∀ n bytes, writer.accepts n bytes = true) ∧
      s.sent bytes? = ({ s with input := some writer },
        bytes?.toList.flatMap fun bytes => [.write bytes, .flush]) := by
  obtain ⟨writer, hinput, haccepts⟩ := h.input
  cases bytes? with
  | none =>
    refine ⟨writer, haccepts, ?_⟩
    rw [← hinput]
    rfl
  | some bytes =>
    refine ⟨{ writer with attempts := writer.attempts + 1 }, haccepts, ?_⟩
    rw [sent, send_of_open hinput, if_pos (haccepts _ bytes)]
    rfl

/-- What a key does while the command is running: nothing, or it is written, changes the
transcript and has it shown. -/
theorem handleKey_of_takes {s : Piped} (h : s.Takes) {k : Key} (hquit : k.isForceQuit = false) :
    (k.isTyping = false ∧ ∃ finished effects, written effects = [] ∧
      s.handleKey k = ({ s with finished }, effects)) ∨
    (k.isTyping = true ∧ ∃ bytes? transcript writer, s.typed? k = some (bytes?, transcript) ∧
      (∀ n bytes, writer.accepts n bytes = true) ∧
        s.handleKey k = ({ s with input := some writer, transcript }.refresh,
          bytes?.toList.flatMap fun bytes => [.write bytes, .flush])) := by
  obtain ⟨writer, hinput, -⟩ := h.input
  have hhandles : s.handles k = k.isTyping := by
    rw [handles, hquit, isClosed, hinput]
    rfl
  rcases s.handleKey_cases k with ⟨hcompleted, -⟩ |
    ⟨-, hnot, input, finished, effects, hsame, hwritten, hkey⟩ |
    ⟨-, htyping, bytes?, transcript, htyped, hkey⟩
  · exact Stage.noConfusion (h.stage.symm.trans hcompleted)
  · obtain rfl := hsame.resolve_right fun hforce =>
      Bool.false_ne_true (hquit.symm.trans hforce.1)
    exact Or.inl ⟨hhandles.symm.trans hnot, finished, effects, hwritten, hkey⟩
  · obtain ⟨writer, haccepts, hsent⟩ := sent_of_takes h bytes?
    refine Or.inr ⟨hhandles.symm.trans htyping, bytes?, transcript, writer, htyped, haccepts, ?_⟩
    rw [hkey, hsent]

/-! ## What is written -/

theorem Takes.handle {s : Piped} (h : s.Takes) {e : Event}
    (hquit : e.isForceQuit = false) (hexit : e.isExit = false) :
    (s.handle e).1.Takes := by
  cases e with
  | key k =>
    show (s.handleKey k).1.Takes
    rcases handleKey_of_takes h hquit with ⟨-, finished, effects, -, hkey⟩ |
      ⟨-, bytes?, transcript, writer, -, haccepts, hkey⟩
    · rw [hkey]
      exact ⟨h.stage, h.input⟩
    · rw [hkey]
      exact ⟨h.stage, writer, rfl, haccepts⟩
  | resize width height => exact ⟨h.stage, h.input⟩
  | output text => exact ⟨h.stage, h.input⟩
  | exited outcome => cases hexit
  | requested ticket => exact h
  | widget generation m => exact h

theorem written_handle {s : Piped} (h : s.Takes) {e : Event}
    (hquit : e.isForceQuit = false) (hexit : e.isExit = false) :
    written (s.handle e).2 = (e.key?.bind Key.piped?).toList := by
  cases e with
  | key k =>
    have hbytes := s.typed?_bind_fst k
    have htyping := s.isSome_typed? k
    rw [Event.key?, Option.bind_some, ← hbytes]
    show written (s.handleKey k).2 = _
    rcases handleKey_of_takes h hquit with ⟨hnot, finished, effects, hwritten, hkey⟩ |
      ⟨-, bytes?, transcript, writer, htyped, -, hkey⟩
    · rw [hnot, Option.isSome_eq_false_iff, Option.isNone_iff_eq_none] at htyping
      rw [hkey, htyping, hwritten]
      rfl
    · rw [hkey, htyped, Option.bind_some]
      cases bytes? with
      | none => rfl
      | some bytes => rfl
  | exited outcome => cases hexit
  | _ => rfl

theorem written_effects_of_completed {s : Piped} (h : s.stage = .completed) (events : List Event) :
    written (effects s events) = [] := by
  induction events generalizing s with
  | nil => rfl
  | cons e events ih =>
    obtain ⟨hstage, hwritten⟩ := handle_completed h e
    rw [effects_cons, written_append]
    exact List.append_eq_nil_iff.mpr ⟨hwritten, ih hstage⟩

/-- **The command gets the keys** that are handled before its end, each in one piece. -/
theorem written_effects {s : Piped} (h : s.Takes) {events : List Event}
    (hquit : ∀ e ∈ events, e.isForceQuit = false) :
    written (effects s events) =
      ((events.takeWhile fun e => !e.isExit).filterMap Event.key?).filterMap Key.piped? := by
  induction events generalizing s with
  | nil => rfl
  | cons e events ih =>
    rw [List.forall_mem_cons] at hquit
    rw [effects_cons, written_append, List.takeWhile_cons]
    by_cases hexit : e.isExit = true
    · have hended : (s.handle e).1.stage = .completed ∧ written (s.handle e).2 = [] := by
        cases e with
        | exited outcome => exact ⟨rfl, s.written_complete outcome⟩
        | _ => cases hexit
      rw [hexit]
      exact List.append_eq_nil_iff.mpr ⟨hended.2, written_effects_of_completed hended.1 events⟩
    · rw [Bool.not_eq_true] at hexit
      have hrest := ih (h.handle hquit.1 hexit) hquit.2
      rw [hexit, Bool.not_false, if_pos rfl, List.filterMap_cons]
      refine (congrArg₂ (· ++ ·) (written_handle h hquit.1 hexit) hrest).trans ?_
      cases e.key? with
      | none => rfl
      | some k =>
        rw [Option.bind_some, List.filterMap_cons]
        cases k.piped? with
        | none => rfl
        | some bytes => rfl

/-! ## What is shown -/

/-- A session that echoes has what its events should leave in it. -/
structure Faithful (past : List Event) (s : Piped) : Prop where
  echo : s.echo = true
  takes : past.any Event.isExit = false → s.Takes
  completed : past.any Event.isExit = true → s.stage = .completed
  content_eq : s.transcript.content = entries [] past
  pending_eq : s.transcript.pending = lineOf past
  lines_eq : past.any Event.refreshes = true →
    s.viewport.lines = (Viewport.setContent {} s.transcript.display).lines

theorem faithful_make (caption : Caption) {input : Writer}
    (hinput : ∀ n bytes, input.accepts n bytes = true) : Faithful [] (make caption true input) where
  echo := rfl
  takes _ := ⟨rfl, input, rfl, hinput⟩
  completed h := nomatch h
  content_eq := rfl
  pending_eq := rfl
  lines_eq h := nomatch h

theorem any_refreshes_of_any_isExit {past : List Event} (h : past.any Event.isExit = true) :
    past.any Event.refreshes = true := by
  rw [List.any_eq_true] at h ⊢
  obtain ⟨e, he, hexit⟩ := h
  refine ⟨e, he, ?_⟩
  cases e <;> first | rfl | cases hexit

/-- An event that leaves the text and the line alone may change what else there is. -/
theorem Faithful.unchanged {past : List Event} {s s' : Piped} (h : Faithful past s) {e : Event}
    (hexit : e.isExit = false) (hentry : entry past e = [])
    (hline : lineOf (past ++ [e]) = lineOf past)
    (hrefreshes : past.any Event.isExit = true ∨ e.refreshes = false)
    (hsame : s'.echo = s.echo ∧ s'.stage = s.stage ∧ s'.input = s.input ∧
      s'.transcript = s.transcript ∧ s'.viewport.lines = s.viewport.lines) :
    Faithful (past ++ [e]) s' := by
  obtain ⟨hecho, hstage, hinput, htranscript, hlines⟩ := hsame
  have hended : (past ++ [e]).any Event.isExit = past.any Event.isExit := by
    rw [any_isExit_concat, hexit, Bool.or_false]
  refine ⟨hecho.trans h.echo, fun hrunning => ?_, fun hcompleted => ?_, ?_, ?_, fun hshown => ?_⟩
  · have htakes := h.takes (hended ▸ hrunning)
    exact ⟨hstage.trans htakes.stage, hinput ▸ htakes.input⟩
  · exact hstage.trans (h.completed (hended ▸ hcompleted))
  · rw [htranscript, h.content_eq, entries_append, List.nil_append, entries, hentry]
    exact (List.append_nil _).symm
  · rw [htranscript, hline, h.pending_eq]
  · have hpast : past.any Event.refreshes = true := by
      rcases hrefreshes with hexited | hquiet
      · exact any_refreshes_of_any_isExit hexited
      · rwa [List.any_append, List.any_cons, List.any_nil, hquiet, Bool.or_false, Bool.or_false]
          at hshown
    rw [hlines, htranscript, h.lines_eq hpast]

/-- Output and the end of the command end the line. -/
theorem Faithful.output {past : List Event} {s s' : Piped} (h : Faithful past s) {e : Event}
    (hend : e.endsLine = true) (hecho : s'.echo = s.echo)
    (htakes : (past ++ [e]).any Event.isExit = false → s'.Takes)
    (hcompleted : (past ++ [e]).any Event.isExit = true → s'.stage = .completed)
    (htranscript : s'.transcript = s.transcript.output (entry past e))
    (hlines : s'.viewport.lines = (Viewport.setContent {} s'.transcript.display).lines) :
    Faithful (past ++ [e]) s' where
  echo := hecho.trans h.echo
  takes := htakes
  completed := hcompleted
  content_eq := by
    rw [htranscript, Transcript.output, h.content_eq, entries_append, List.nil_append, entries]
    exact congrArg _ (List.append_nil _).symm
  pending_eq := by
    rw [htranscript, lineOf_concat_of_endsLine past hend]
    rfl
  lines_eq _ := hlines

/-- A key while the command is running. -/
theorem Faithful.typed {past : List Event} {s : Piped} (h : Faithful past s)
    (hpast : past.any Event.isExit = false) {k : Key} (hquit : k.isForceQuit = false) :
    Faithful (past ++ [Event.key k]) (s.handleKey k).1 := by
  have htakes := h.takes hpast
  have htyped := typed?_of_echo h.echo k
  have hline (henter : k.code ≠ .enter) :
      lineOf (past ++ [Event.key k]) = k.spell (lineOf past) :=
    lineOf_concat (e := .key k) hpast (beq_eq_false_iff_ne.mpr henter)
  rcases handleKey_of_takes htakes hquit with ⟨hnot, finished, effects, -, hkey⟩ |
    ⟨htyping, bytes?, transcript, writer, hsome, haccepts, hkey⟩
  · obtain ⟨henter, hspell⟩ := Key.spell_of_not_isTyping hnot (lineOf past)
    rw [hkey]
    exact h.unchanged rfl (if_neg fun hend => henter hend.1) ((hline henter).trans hspell)
      (Or.inr hnot) ⟨rfl, rfl, rfl, rfl, rfl⟩
  · have hrunning : (past ++ [Event.key k]).any Event.isExit = false := by
      rw [any_isExit_concat, hpast]
      rfl
    have hended (hexit : (past ++ [Event.key k]).any Event.isExit = true) (stage : Stage) :
        stage = .completed := absurd (hrunning.symm.trans hexit) Bool.false_ne_true
    rw [hsome, htyping, if_pos rfl] at htyped
    obtain ⟨-, rfl⟩ := Prod.mk.inj (Option.some.inj htyped)
    rw [hkey]
    by_cases henter : k.code = .enter
    · have hentry : entry past (.key k) = s.transcript.pending ++ ['\n'] := by
        rw [entry, if_pos ⟨henter, hpast⟩, h.pending_eq]
      refine h.output (beq_iff_eq.mpr henter) rfl (fun _ => ⟨htakes.stage, writer, rfl, haccepts⟩)
        (fun hexit => hended hexit _) ?_ (refresh_lines _)
      rw [refresh_transcript, if_pos henter, hentry, Transcript.output, ← List.append_assoc]
      rfl
    · have hentry : entry past (.key k) = [] := if_neg fun hend => henter hend.1
      rw [if_neg henter]
      refine ⟨h.echo, fun _ => ⟨htakes.stage, writer, rfl, haccepts⟩, fun hexit => hended hexit _,
        ?_, ?_, fun _ => refresh_lines _⟩
      · rw [entries_append, List.nil_append, entries, hentry, ← h.content_eq]
        exact (List.append_nil _).symm
      · rw [hline henter, ← h.pending_eq]
        rfl

theorem Faithful.handle {past : List Event} {s : Piped} (h : Faithful past s) {e : Event}
    (hquit : e.isForceQuit = false) :
    Faithful (past ++ [e]) (s.handle e).1 := by
  cases e with
  | key k =>
    cases hpast : past.any Event.isExit with
    | false => exact h.typed hpast hquit
    | true =>
      have hentry : entry past (.key k) = [] := if_neg fun henter => by
        rw [hpast] at henter
        cases henter.2
      refine h.unchanged rfl hentry (lineOf_concat_of_exited hpast _) (Or.inl hpast) ?_
      obtain ⟨finished, offset, hkey⟩ := handleKey_of_completed (h.completed hpast) k
      rw [Piped.handle, hkey]
      exact ⟨rfl, rfl, rfl, rfl, rfl⟩
  | output text =>
    have hexit : (past ++ [Event.output text]).any Event.isExit = past.any Event.isExit := by
      rw [any_isExit_concat]
      exact Bool.or_false _
    refine h.output rfl rfl (fun hrunning => ?_) (fun hended => ?_) rfl (refresh_lines _)
    · have htakes := h.takes (hexit ▸ hrunning)
      exact ⟨htakes.stage, htakes.input⟩
    · exact h.completed (hexit ▸ hended)
  | exited outcome =>
    refine h.output rfl rfl (fun hrunning => ?_) (fun _ => rfl) rfl (refresh_lines _)
    rw [any_isExit_concat] at hrunning
    exact absurd hrunning (by simp [Event.isExit])
  | resize width height =>
    exact h.unchanged rfl rfl (lineOf_concat_of_no_key past rfl rfl) (Or.inr rfl)
      ⟨rfl, rfl, rfl, rfl, rfl⟩
  | requested ticket =>
    exact h.unchanged rfl rfl (lineOf_concat_of_no_key past rfl rfl) (Or.inr rfl)
      ⟨rfl, rfl, rfl, rfl, rfl⟩
  | widget generation m =>
    exact h.unchanged rfl rfl (lineOf_concat_of_no_key past rfl rfl) (Or.inr rfl)
      ⟨rfl, rfl, rfl, rfl, rfl⟩

theorem faithful_after (caption : Caption) {input : Writer}
    (hinput : ∀ n bytes, input.accepts n bytes = true) {events : List Event}
    (hquit : ∀ e ∈ events, e.isForceQuit = false) :
    Faithful events (after (make caption true input) events) := by
  induction events using List.reverseRecOn with
  | nil => exact faithful_make caption hinput
  | append_singleton events e ih =>
    rw [List.forall_mem_append, List.forall_mem_singleton] at hquit
    rw [after_append]
    exact (ih hquit.1).handle hquit.2

/-- **Echo neither doubles nor loses text.**  After any events without the key that quits by
force, if no write to the command fails,

* the text has only grown at its end, and it consists of every output, every summary of an
  end, and with each Enter before the end the line that was typed then, in their order;
* what was typed and not entered is what the keys since the last Enter, the last output and
  the end spell;
* from the first output, end or handled key on, the viewport is on the text and what was
  typed behind it;
* what was written to the command are the keys that were handled before the end, each in its
  encoding, in order, whether the session echoes or not. -/
theorem transcript_history {caption : Caption} {input : Writer}
    (hinput : ∀ n bytes, input.accepts n bytes = true) {events : List Event}
    (hquit : ∀ e ∈ events, e.isForceQuit = false) :
    let start := make caption true input
    let s := after start events
    (∀ past, past <+: events → (after start past).transcript.content <+: s.transcript.content) ∧
    s.transcript.content = entries [] events ∧ s.transcript.pending = lineOf events ∧
    ((∃ e ∈ events, e.refreshes = true) → s.viewport.lines =
      (Viewport.setContent {} (s.transcript.content ++ s.transcript.pending)).lines) ∧
    ∀ echo, written (effects (make caption echo input) events) =
      ((events.takeWhile fun e => !e.isExit).filterMap Event.key?).filterMap Key.piped? := by
  intro start s
  have hs : Faithful events s := faithful_after caption hinput hquit
  refine ⟨?_, hs.content_eq, hs.pending_eq, fun hshown => hs.lines_eq (List.any_eq_true.mpr hshown),
    fun echo => written_effects ⟨rfl, input, rfl, hinput⟩ hquit⟩
  rintro past ⟨later, rfl⟩
  have hpast : Faithful past (after start past) :=
    faithful_after caption hinput (List.forall_mem_append.mp hquit).1
  rw [hs.content_eq, hpast.content_eq, entries_append]
  exact List.prefix_append _ _

/-- Two characters, one of them taken back, are dropped by the output; a line is entered, and
the next one is dropped by the end. -/
theorem transcript_history_typed :
    let typed (c : Char) : Event := .key { code := .char c }
    let before : List Event := [typed 'h', typed 'é', .key { code := .backspace },
      .output "x\n".toList, typed 'a', .key { code := .char 'c', ctrl := true },
      .key { code := .up }, .key { code := .tab }, .key { code := .enter }, typed 'b']
    let events := before ++ [.exited .interrupted, typed 'j']
    let s := after (make {} true .working) events
    s.transcript.content = "x\na\t\n".toList ++ Outcome.interrupted.summary ∧
      s.transcript.pending = [] ∧
      s.viewport.lines = (Viewport.setContent {} s.transcript.content).lines ∧
      written (effects (make {} false .working) events) =
        [[0x68], [0xc3, 0xa9], [0x7f], [0x61], [0x03], [0x09], [0x0a], [0x62]] := by
  intro typed before events s
  obtain ⟨-, hcontent, hpending, hlines, hwritten⟩ :=
    @transcript_history {} .working (fun _ _ => rfl) events (by decide)
  have hnothing : s.transcript.pending = [] := hpending.trans (by decide)
  have hshown := hlines ⟨.exited .interrupted, by simp [events], rfl⟩
  have hbefore : entries [] before = "x\na\t\n".toList := by decide
  have hafter (outcome : Outcome) : entries before [.exited outcome, typed 'j'] = outcome.summary :=
    List.append_nil _
  refine ⟨hcontent.trans ?_, hnothing, ?_, (hwritten false).trans (by decide)⟩
  · rw [entries_append, hbefore, List.nil_append, hafter]
  · rw [hnothing, List.append_nil] at hshown
    exact hshown

end Piped
end Session
end TerminalDialogs
