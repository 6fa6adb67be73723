import TerminalDialogs.Proofs.Styled.Stream
import TerminalDialogs.Proofs.Styled.Whole

/-!
# What a stream lets through and what it holds back

A text is *self-contained* if it can be shown behind any other such text: its runs
are visible text and complete sequences, none of them a command.  Self-contained
texts can be put together (`selfContained_flatten`), because each of them ends
between sequences and so does not change how the next one is cut into runs.

A stream lets nothing else through, whatever its chunks are (`Released.selfContained`), and
what it holds back keeps to the limit.  For the limit it matters what is kept of a
sequence that is given up: nothing, because its bytes are swallowed from then on.  Only
a character that has begun may be left without a sequence in front of it, and it has
three bytes at most.
-/

namespace TerminalDialogs
namespace Styled

/-! ## Self-contained texts -/

/-- Visible text, or a complete sequence that is no command. -/
def Run.IsShown : Run → Prop
  | .text _ => True
  | .escape sequence => isCommand sequence = false
  | .unfinished _ => False

/-- A visible character, or a complete sequence that is no command. -/
def Token.IsShown : Token → Prop
  | .char _ => True
  | .escape sequence => isCommand sequence = false
  | .unfinished _ => False

/-- The runs of the text are visible text and complete sequences, and none of them is
a command. -/
def SelfContained (s : Text) : Prop := ∀ run ∈ runs s, run.IsShown

theorem forall_isShown_push {t : Token} {rs : List Run} :
    (∀ run ∈ Run.push t rs, run.IsShown) ↔ t.IsShown ∧ ∀ run ∈ rs, run.IsShown := by
  rcases t with c | sequence | sequence
  · -- a character may join the text behind it
    rcases rs with _ | ⟨s | other | other, rs⟩ <;>
      simp [Run.push, Run.IsShown, Token.IsShown]
  · exact List.forall_mem_cons
  · exact List.forall_mem_cons

theorem selfContained_iff_tokens {s : Text} : SelfContained s ↔ ∀ t ∈ tokens s, t.IsShown := by
  rw [SelfContained, runs]
  induction tokens s with
  | nil => simp
  | cons t ts ih => rw [List.foldr_cons, forall_isShown_push, ih, List.forall_mem_cons]

theorem SelfContained.whole {s : Text} (h : SelfContained s) : Whole s :=
  fun _ hmem => h _ hmem

theorem SelfContained.append {a b : Text} (ha : SelfContained a) (hb : SelfContained b) :
    SelfContained (a ++ b) := by
  rw [selfContained_iff_tokens, ha.whole.tokens_append, List.forall_mem_append]
  exact ⟨selfContained_iff_tokens.mp ha, selfContained_iff_tokens.mp hb⟩

theorem selfContained_nil : SelfContained [] := fun _ hmem => absurd hmem List.not_mem_nil

/-- Self-contained texts can be put together. -/
theorem selfContained_flatten {texts : List Text} (h : ∀ text ∈ texts, SelfContained text) :
    SelfContained texts.flatten := by
  induction texts with
  | nil => exact selfContained_nil
  | cons text texts ih =>
    rw [List.forall_mem_cons] at h
    exact h.1.append (ih h.2)

theorem selfContained_of_visible {s : Text} (h : esc ∉ s) : SelfContained s := by
  rw [selfContained_iff_tokens, tokens_of_visible h]
  intro t ht
  obtain ⟨c, -, rfl⟩ := List.mem_map.mp ht
  trivial

/-- Complete tokens spell a self-contained text if the commands are left out. -/
theorem selfContained_spellWithoutCommands {ts : List Token} (h : ∀ t ∈ ts, t.Complete) :
    SelfContained (spellWithoutCommands ts) := by
  rw [selfContained_iff_tokens, spellWithoutCommands,
    tokens_spell fun t ht => h t (List.mem_filter.mp ht).1]
  intro t ht
  obtain ⟨hmem, hkept⟩ := List.mem_filter.mp ht
  have hfinished := (h t hmem).isUnfinished_eq_false
  rcases t with c | sequence | sequence
  · trivial
  · simpa [Token.IsShown] using hkept
  · exact absurd hfinished (by simp [Token.isUnfinished])

/-- What is let through of a text, in one piece. -/
theorem selfContained_splitUnfinished (s : Text) :
    SelfContained (spellWithoutCommands (splitUnfinished (tokens s)).1) := by
  rw [splitUnfinished_tokens]
  exact selfContained_spellWithoutCommands (readAll_of_sound Scan.sound_none s).2

/-! ## Chunks -/

namespace Stream

/-- Whatever waits already, what waits after new bytes keeps to the limit. -/
theorem length_held_absorb_le (held chunk : List UInt8) :
    (absorb held chunk).2.held.length ≤ heldLimit := by
  have hbegun : (Utf8.decodeOpen (held ++ chunk)).2.length ≤ 3 :=
    Utf8.length_bytes_le (Utf8.feedAll_sound Utf8.State.sound_none (held ++ chunk))
  rw [absorb]
  generalize Utf8.decodeOpen (held ++ chunk) = decoded at hbegun ⊢
  split
  · -- something is given up
    cases hsequence : (splitUnfinished (tokens decoded.1)).2 with
    | nil => exact Nat.le_trans hbegun (by decide)
    | cons c sequence => exact Nat.zero_le heldLimit
  · next hshort => exact Nat.not_lt.mp hshort

theorem length_held_push_le {stream : Stream} (h : stream.held.length ≤ heldLimit)
    (chunk : List UInt8) : (stream.push chunk).2.held.length ≤ heldLimit := by
  rw [push]
  split
  · exact length_held_absorb_le stream.held chunk
  · split
    · exact h
    · exact length_held_absorb_le stream.held _

theorem selfContained_absorb (held chunk : List UInt8) : SelfContained (absorb held chunk).1 := by
  rw [absorb]
  split
  · exact selfContained_splitUnfinished _
  · exact selfContained_splitUnfinished _

theorem selfContained_push (stream : Stream) (chunk : List UInt8) :
    SelfContained (stream.push chunk).1 := by
  rw [push]
  split
  · exact selfContained_absorb stream.held chunk
  · split
    · exact selfContained_nil
    · exact selfContained_absorb stream.held _

theorem selfContained_finish (stream : Stream) : SelfContained stream.finish :=
  selfContained_splitUnfinished _

theorem length_held_pushAll_le {stream : Stream} (h : stream.held.length ≤ heldLimit)
    (chunks : List (List UInt8)) : (stream.pushAll chunks).2.held.length ≤ heldLimit := by
  induction chunks generalizing stream with
  | nil => exact h
  | cons chunk chunks ih => exact ih (length_held_push_le h chunk)

end Stream

/-- A text that a stream lets through at some time, with a chunk or at its end. -/
inductive Released : Text → Prop where
  | push (chunks : List (List UInt8)) (chunk : List UInt8) :
      Released ((Stream.empty.pushAll chunks).2.push chunk).1
  | finish (chunks : List (List UInt8)) : Released (Stream.empty.pushAll chunks).2.finish

theorem Released.selfContained {text : Text} (h : Released text) : SelfContained text := by
  cases h with
  | push chunks chunk => exact Stream.selfContained_push _ chunk
  | finish chunks => exact Stream.selfContained_finish _

end Styled
end TerminalDialogs
