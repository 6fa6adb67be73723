import TerminalDialogs.Proofs.Session.Keys

/-!
# Keys of a session over pipes

What a key does is said once, for any session over pipes (`handleKey_cases`): when the
command has ended, it finishes the session or moves the viewport; before, it is handled
(`handles`) or does no more than to quit by force.  A key that is handled is written, if it
has an encoding, leaves the transcript that `typed?` says, and has the text shown anew.  A
write may close the pipe, but opens no other (`continues_sent`).
-/

namespace TerminalDialogs

namespace Key

/-- Whether a session over pipes handles the key while its command is running. -/
def isTyping (k : Key) : Bool :=
  match k.code with
  | .enter | .tab | .backspace | .escape | .char _ => true
  | _ => false

/-- What a command behind pipes gets of a key. -/
def piped? (k : Key) : Option (List UInt8) :=
  match k.code with
  | .enter => some [0x0a]
  | .tab => some [0x09]
  | .backspace => some [0x7f]
  | .escape | .char _ => k.bytes?
  | _ => none

end Key

namespace Session
namespace Piped

@[simp] theorem refresh_transcript (s : Piped) : s.refresh.transcript = s.transcript := rfl

theorem refresh_lines (s : Piped) :
    s.refresh.viewport.lines = (Viewport.setContent {} s.transcript.display).lines := by
  rw [refresh]
  split
  · rfl
  · rfl

/-! ## What a key asks for -/

theorem typed?_bind_fst (s : Piped) (k : Key) : (s.typed? k).bind Prod.fst = k.piped? := by
  obtain ⟨code, ctrl, alt, shift, action⟩ := k
  cases code
  case char c =>
    cases ctrl
    · cases alt
      · rfl
      · rfl
    · rfl
  all_goals rfl

theorem isSome_typed? (s : Piped) (k : Key) : (s.typed? k).isSome = k.isTyping := by
  obtain ⟨code, ctrl, alt, shift, action⟩ := k
  cases code
  case char c =>
    rw [typed?]
    dsimp only
    split
    · rfl
    · rfl
  all_goals rfl

/-- Whether a key is handled, if the command has not ended. -/
def handles (s : Piped) (k : Key) : Bool := !k.isForceQuit && !s.isClosed && k.isTyping

/-- Writes what a key asks for. -/
def sent (s : Piped) (bytes? : Option (List UInt8)) : Piped × List Effect :=
  match bytes? with
  | some bytes => s.send bytes
  | none => (s, [])

/-- The pipe of a session is that of an earlier one, if it is open. -/
def Continues (input input' : Option Writer) : Prop :=
  ∀ writer', input' = some writer' →
    ∃ writer, input = some writer ∧ writer'.accepts = writer.accepts

theorem continues_refl (input : Option Writer) : Continues input input :=
  fun writer h => ⟨writer, h, rfl⟩

theorem send_of_closed {s : Piped} (h : s.input = none) (bytes : List UInt8) :
    s.send bytes = (s, []) := by
  rw [send, h]

theorem send_of_open {s : Piped} {writer : Writer} (h : s.input = some writer)
    (bytes : List UInt8) :
    s.send bytes =
      if writer.accepts writer.attempts bytes then
        ({ s with input := some { writer with attempts := writer.attempts + 1 } },
          [.write bytes, .flush])
      else ({ s with input := none }, []) := by
  rw [send, h]
  rfl

theorem continues_sent (s : Piped) (bytes? : Option (List UInt8)) :
    ∃ input, Continues s.input input ∧ (s.sent bytes?).1 = { s with input } := by
  cases bytes? with
  | none => exact ⟨s.input, continues_refl s.input, rfl⟩
  | some bytes =>
    rw [sent]
    cases hinput : s.input with
    | none =>
      refine ⟨none, continues_refl none, ?_⟩
      rw [send_of_closed hinput, ← hinput]
    | some writer =>
      rw [send_of_open hinput]
      split
      · exact ⟨some { writer with attempts := writer.attempts + 1 },
          fun writer' h => ⟨writer, rfl, Option.some.inj h ▸ rfl⟩, rfl⟩
      · exact ⟨none, fun writer' h => absurd h.symm (Option.some_ne_none writer'), rfl⟩

/-! ## What a key does -/

theorem written_close (s : Piped) : written s.close.2 = [] := by
  rw [close]
  split
  · rfl
  · rfl

theorem handleKey_of_completed {s : Piped} (h : s.stage = .completed) (k : Key) :
    ∃ finished offset, s.handleKey k =
      ({ s with finished, viewport := { s.viewport with offset } }, []) := by
  rw [handleKey, if_pos h]
  cases hreview : review s.viewport k with
  | leave => exact ⟨true, s.viewport.offset, rfl⟩
  | «show» viewport =>
    obtain ⟨offset, rfl⟩ := review_show_eq hreview
    exact ⟨s.finished, offset, rfl⟩

theorem handleKey_of_not_handles {s : Piped} (hstage : s.stage ≠ .completed) {k : Key}
    (h : s.handles k = false) :
    ∃ input finished effects, (input = s.input ∨ k.isForceQuit = true ∧ input = none) ∧
      written effects = [] ∧ s.handleKey k = ({ s with input, finished }, effects) := by
  have hkey : s.handleKey k = s.handleTyping k := if_neg hstage
  rw [hkey, handleTyping]
  by_cases hquit : k.isForceQuit = true
  · rw [if_pos hquit]
    exact ⟨none, true, _, Or.inr ⟨hquit, rfl⟩, s.written_close, rfl⟩
  rw [if_neg hquit]
  by_cases hclosed : s.isClosed = true
  · rw [if_pos hclosed]
    exact ⟨s.input, s.finished, [], Or.inl rfl, rfl, rfl⟩
  · have htyped : s.typed? k = none := by
      rw [handles, Bool.eq_false_iff.mpr hquit, Bool.eq_false_iff.mpr hclosed] at h
      rw [← Option.isNone_iff_eq_none, ← Option.isSome_eq_false_iff, isSome_typed?]
      exact h
    rw [if_neg hclosed, htyped]
    exact ⟨s.input, s.finished, [], Or.inl rfl, rfl, rfl⟩

theorem handleKey_of_handles {s : Piped} (hstage : s.stage ≠ .completed) {k : Key}
    (h : s.handles k = true) :
    ∃ bytes? transcript, s.typed? k = some (bytes?, transcript) ∧
      s.handleKey k = ({ (s.sent bytes?).1 with transcript }.refresh, (s.sent bytes?).2) := by
  rw [handles, Bool.and_eq_true, Bool.and_eq_true, Bool.not_eq_true', Bool.not_eq_true',
    ← s.isSome_typed?] at h
  obtain ⟨⟨hquit, hclosed⟩, htyped⟩ := h
  obtain ⟨⟨bytes?, transcript⟩, htyped⟩ := Option.isSome_iff_exists.mp htyped
  have hkey : s.handleKey k = s.handleTyping k := if_neg hstage
  refine ⟨bytes?, transcript, htyped, ?_⟩
  rw [hkey, handleTyping, hquit, if_neg Bool.false_ne_true, hclosed, if_neg Bool.false_ne_true,
    htyped]
  rfl

/-- **What a key can do.** -/
theorem handleKey_cases (s : Piped) (k : Key) :
    (s.stage = .completed ∧ ∃ finished offset, s.handleKey k =
      ({ s with finished, viewport := { s.viewport with offset } }, [])) ∨
    (s.stage ≠ .completed ∧ s.handles k = false ∧ ∃ input finished effects,
      (input = s.input ∨ k.isForceQuit = true ∧ input = none) ∧ written effects = [] ∧
        s.handleKey k = ({ s with input, finished }, effects)) ∨
    (s.stage ≠ .completed ∧ s.handles k = true ∧ ∃ bytes? transcript,
      s.typed? k = some (bytes?, transcript) ∧
        s.handleKey k = ({ (s.sent bytes?).1 with transcript }.refresh, (s.sent bytes?).2)) := by
  by_cases hstage : s.stage = .completed
  · exact Or.inl ⟨hstage, handleKey_of_completed hstage k⟩
  cases hhandles : s.handles k with
  | false => exact Or.inr (Or.inl ⟨hstage, rfl, handleKey_of_not_handles hstage hhandles⟩)
  | true => exact Or.inr (Or.inr ⟨hstage, rfl, handleKey_of_handles hstage hhandles⟩)

/-! ## The end of the command -/

theorem written_complete (s : Piped) (outcome : Outcome) : written (s.complete outcome).2 = [] :=
  s.written_close

/-- After the end nothing is written any more. -/
theorem handle_completed {s : Piped} (h : s.stage = .completed) (e : Event) :
    (s.handle e).1.stage = .completed ∧ written (s.handle e).2 = [] := by
  cases e with
  | key k =>
    obtain ⟨finished, offset, hkey⟩ := handleKey_of_completed h k
    rw [handle, hkey]
    exact ⟨h, rfl⟩
  | exited outcome => exact ⟨rfl, s.written_complete outcome⟩
  | _ => exact ⟨h, rfl⟩

/-- Only the end of the command changes the stage. -/
theorem stage_handle (s : Piped) {e : Event} (h : e.isExit = false) :
    (s.handle e).1.stage = s.stage := by
  cases e with
  | key k =>
    show (s.handleKey k).1.stage = s.stage
    rcases s.handleKey_cases k with ⟨-, finished, offset, hkey⟩ |
      ⟨-, -, input, finished, effects, -, -, hkey⟩ | ⟨-, -, bytes?, transcript, -, hkey⟩
    · rw [hkey]
    · rw [hkey]
    · obtain ⟨input, -, hsent⟩ := s.continues_sent bytes?
      rw [hkey, hsent]
      rfl
  | exited outcome => cases h
  | _ => rfl

end Piped
end Session
end TerminalDialogs
