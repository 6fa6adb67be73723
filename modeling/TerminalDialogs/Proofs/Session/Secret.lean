import TerminalDialogs.Proofs.Session.PipedKeys

/-!
# What is typed without an echo stays hidden

A session over pipes that does not echo sends what is typed to the command and shows
nothing of it.  Two runs are compared that are told the same but for some of the characters
that are typed before the command has ended (`Disguise`).  If a write fails or succeeds
whatever the bytes are, one event leads both sessions to the very same state
(`handle_alike`), not just to one that looks alike; so they cannot be told apart by
anything that is asked of them, at any time (`after_disguise`).

Once the command has ended, keys are for the session itself and scroll its output, so a
character typed then may well be seen.
-/

namespace TerminalDialogs
namespace Session

/-- Two events that differ at most in the character that is typed, without Control and Alt. -/
inductive Alike : Event → Event → Prop
  | same (e : Event) : Alike e e
  | typed {k k' : Key} {c c' : Char} (hk : k.code = .char c) (hk' : k'.code = .char c')
      (hplain : k.isPlain = true) (hplain' : k'.isPlain = true) : Alike (.key k) (.key k')

/-- Two histories that differ at most in characters that are typed before the end of the
command. -/
inductive Disguise : List Event → List Event → Prop
  | same (events : List Event) : Disguise events events
  | cons {e e' : Event} {a b : List Event} (he : Alike e e') (hexit : e.isExit = false)
      (hrest : Disguise a b) : Disguise (e :: a) (e' :: b)

/-- Whether a write succeeds does not depend on what is written. -/
def Writer.Uniform (w : Writer) : Prop := ∀ n bytes bytes', w.accepts n bytes = w.accepts n bytes'

namespace Piped

/-! ## A session without an echo -/

/-- A session that does not echo, has nothing typed to show and is written to without regard
to what is written. -/
structure Silent (s : Piped) : Prop where
  echo : s.echo = false
  pending_eq : s.transcript.pending = []
  uniform : ∀ writer, s.input = some writer → writer.Uniform

/-- Without the echo a key leaves nothing of itself in the transcript. -/
theorem pending_of_typed? {s : Piped} (h : s.Silent) {k : Key} {bytes? : Option (List UInt8)}
    {transcript : Transcript} (htyped : s.typed? k = some (bytes?, transcript)) :
    transcript.pending = [] := by
  have hechoed (c : Char) : (s.echoed c).pending = [] := by
    rw [echoed, h.echo, if_neg Bool.false_ne_true, h.pending_eq]
  have htaken : s.transcript.takeBack.pending = [] := by
    rw [Transcript.takeBack, h.pending_eq]
    rfl
  obtain ⟨code, ctrl, alt, shift, action⟩ := k
  cases code
  case enter =>
    obtain ⟨-, rfl⟩ := Prod.mk.inj (Option.some.inj htyped)
    rfl
  case backspace =>
    obtain ⟨-, rfl⟩ := Prod.mk.inj (Option.some.inj htyped)
    exact htaken
  case tab =>
    obtain ⟨-, rfl⟩ := Prod.mk.inj (Option.some.inj htyped)
    exact hechoed '\t'
  case escape =>
    obtain ⟨-, rfl⟩ := Prod.mk.inj (Option.some.inj htyped)
    exact h.pending_eq
  case char c =>
    rw [typed?] at htyped
    dsimp only at htyped
    split at htyped
    · obtain ⟨-, rfl⟩ := Prod.mk.inj (Option.some.inj htyped)
      exact hechoed c
    · obtain ⟨-, rfl⟩ := Prod.mk.inj (Option.some.inj htyped)
      exact h.pending_eq
  all_goals cases htyped

theorem Silent.handle {s : Piped} (h : s.Silent) (e : Event) : (s.handle e).1.Silent := by
  cases e with
  | key k =>
    show (s.handleKey k).1.Silent
    rcases s.handleKey_cases k with ⟨-, finished, offset, hkey⟩ |
      ⟨-, -, input, finished, effects, hinput, -, hkey⟩ | ⟨-, -, bytes?, transcript, htyped, hkey⟩
    · rw [hkey]
      exact ⟨h.echo, h.pending_eq, h.uniform⟩
    · rw [hkey]
      refine ⟨h.echo, h.pending_eq, ?_⟩
      rcases hinput with rfl | ⟨-, rfl⟩
      · exact h.uniform
      · exact fun _ hnone => nomatch hnone
    · obtain ⟨input, hcontinues, hsent⟩ := s.continues_sent bytes?
      rw [hkey, hsent]
      refine ⟨h.echo, pending_of_typed? h htyped, fun writer' hwriter' => ?_⟩
      obtain ⟨writer, hwriter, haccepts⟩ := hcontinues writer' hwriter'
      have huniform := h.uniform writer hwriter
      rw [Writer.Uniform] at huniform ⊢
      rwa [haccepts]
  | resize width height => exact ⟨h.echo, h.pending_eq, h.uniform⟩
  | output text => exact ⟨h.echo, rfl, h.uniform⟩
  | exited outcome => exact ⟨h.echo, rfl, fun _ hinput => nomatch hinput⟩
  | requested ticket => exact h
  | widget generation m => exact h

/-! ## Two runs -/

/-- A write that does not regard the bytes leads to the same state with others. -/
theorem send_uniform {s : Piped} (h : ∀ writer, s.input = some writer → writer.Uniform)
    (bytes bytes' : List UInt8) : (s.send bytes).1 = (s.send bytes').1 := by
  cases hinput : s.input with
  | none => rw [send_of_closed hinput, send_of_closed hinput]
  | some writer =>
    rw [send_of_open hinput, send_of_open hinput, h writer hinput _ bytes bytes']
    split
    · rfl
    · rfl

/-- Every character that is typed leads a silent session to the same state. -/
theorem handleKey_of_silent {s : Piped} (hs : s.Silent) (hstage : s.stage ≠ .completed) {k : Key}
    {c : Char} (hk : k.code = .char c) (hplain : k.isPlain = true) :
    (s.handleKey k).1 =
      if s.isClosed then s else { (s.send []).1 with transcript := s.transcript }.refresh := by
  have hkey : s.handleKey k = s.handleTyping k := if_neg hstage
  have hquit : k.isForceQuit = false := by
    rw [Key.isPlain, Bool.and_eq_true, Bool.not_eq_true'] at hplain
    rw [Key.isForceQuit, hplain.1, Bool.false_and]
  have htyped : s.typed? k = some (some (Utf8.encodeChar c), s.transcript) := by
    rw [typed?, hk]
    dsimp only
    rw [if_pos hplain, echoed, hs.echo, if_neg Bool.false_ne_true]
  rw [hkey, handleTyping, hquit, if_neg Bool.false_ne_true, htyped,
    send_uniform hs.uniform [] (Utf8.encodeChar c)]
  split
  · rfl
  · rfl

theorem handle_alike {s : Piped} (hs : s.Silent) (hstage : s.stage ≠ .completed) {e e' : Event}
    (h : Alike e e') : (s.handle e).1 = (s.handle e').1 := by
  cases h with
  | same => rfl
  | typed hk hk' hplain hplain' =>
    exact (handleKey_of_silent hs hstage hk hplain).trans
      (handleKey_of_silent hs hstage hk' hplain').symm

/-- **Two disguised runs are in the same state at any time.** -/
theorem after_disguise {s : Piped} (hs : s.Silent) (hstage : s.stage ≠ .completed)
    {a b : List Event} (h : Disguise a b) (n : Nat) : after s (a.take n) = after s (b.take n) := by
  induction h generalizing s n with
  | same events => rfl
  | @cons e e' a b he hexit _ ih =>
    cases n with
    | zero => rfl
    | succ n =>
      have hnext : (s.handle e).1 = (s.handle e').1 := handle_alike hs hstage he
      rw [List.take_succ_cons, List.take_succ_cons, after_cons, after_cons]
      refine (ih (hs.handle e) (stage_handle s hexit ▸ hstage) n).trans ?_
      exact congrArg (fun s => after s (b.take n)) hnext

/-- **Secrets are not shown.**  Two new sessions over pipes that do not echo, and for which a
write fails or succeeds whatever the bytes are, are told the same but for some of the
characters that are typed before the command has ended.  Whenever they have been told
equally much, they have the same text, viewport and screen, and both or none of them is
finished; and nothing is shown as typed. -/
theorem secrets_hidden {caption : Caption} {input : Writer} (hinput : input.Uniform)
    {a b : List Event} (h : Disguise a b) (n : Nat) :
    let s := after (make caption false input) (a.take n)
    let t := after (make caption false input) (b.take n)
    s.transcript.content = t.transcript.content ∧
      s.transcript.pending = [] ∧ t.transcript.pending = [] ∧
      s.viewport = t.viewport ∧ s.view = t.view ∧ s.finished = t.finished := by
  intro s t
  have hmake : (make caption false input).Silent :=
    ⟨rfl, rfl, fun writer hwriter => Option.some.inj hwriter ▸ hinput⟩
  have hsame : s = t := after_disguise hmake (fun h => Stage.noConfusion h) h n
  have hs : s.Silent := after_invariant (fun s e (h : Silent s) => h.handle e) hmake (a.take n)
  rw [← hsame]
  exact ⟨rfl, hs.pending_eq, hs.pending_eq, rfl, rfl, rfl⟩

/-- Two passwords of three characters, the last of which cannot be written any more. -/
theorem secrets_hidden_passwords :
    let typed (c : Char) : Event := .key { code := .char c }
    let prompt : List Event := [.resize 20 6, .output "Password: ".toList]
    let rest : List Event := [.key { code := .enter }, .exited .interrupted, typed 'k']
    let a := prompt ++ [typed 'a', typed 'b', typed 'c'] ++ rest
    let b := prompt ++ [typed 'x', typed 'b', typed 'é'] ++ rest
    let s := after (make {} false (.failingAfter 2)) (a.take 6)
    let t := after (make {} false (.failingAfter 2)) (b.take 6)
    Disguise a b ∧ s.transcript.content = t.transcript.content ∧ s.transcript.pending = [] ∧
      s.viewport = t.viewport ∧ s.view = t.view := by
  intro typed prompt rest a b s t
  have hdisguise : Disguise a b :=
    .cons (.same _) rfl (.cons (.same _) rfl
      (.cons (.typed rfl rfl rfl rfl) rfl (.cons (.same _) rfl
        (.cons (.typed rfl rfl rfl rfl) rfl (.same rest)))))
  obtain ⟨hcontent, hpending, -, hviewport, hview, -⟩ :=
    @secrets_hidden {} (.failingAfter 2) (fun _ _ _ => rfl) a b hdisguise 6
  exact ⟨hdisguise, hcontent, hpending, hviewport, hview⟩

end Piped
end Session
end TerminalDialogs
