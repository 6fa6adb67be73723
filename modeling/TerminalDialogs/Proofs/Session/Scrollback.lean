import TerminalDialogs.Proofs.Session.Duration
import TerminalDialogs.Proofs.Session.PipedKeys
import TerminalDialogs.Proofs.Styled.Released

/-!
# What the scrollback holds

The text that a session collects is shown through a window that is cut out of it and
fitted to the screen, so nothing in it may reach beyond its own place: no sequence that
waits for its end, and no command to the terminal.  Output comes from a stream that lets
only self-contained texts through, and whatever else a session adds, a summary or a line
that was typed, is self-contained too unless somebody puts ESC into it (`Event.IsClean`).
So the text is self-contained at any time (`scrollback_self_contained`): every event puts
another such text behind it or leaves it alone.
-/

namespace TerminalDialogs

open Styled (esc SelfContained selfContained_of_visible)

namespace Screen

theorem selfContained_paint {s : Text} (h : esc ∉ s) (style : Style) :
    SelfContained (paint s style) := by
  have hs := selfContained_of_visible h
  rcases paint_eq s style with hpaint | ⟨parameters, hparameters, hpaint⟩
  · rwa [hpaint]
  · have hsequence : SelfContained (Styled.controlSequence parameters 'm') := by
      rw [Styled.selfContained_iff_tokens, Styled.tokens_controlSequence hparameters]
      intro t ht
      rw [List.mem_singleton.mp ht]
      rfl
    have hreset : SelfContained Styled.reset := by
      rw [Styled.selfContained_iff_tokens]
      intro t ht
      rw [List.mem_singleton.mp ht]
      rfl
    rw [hpaint]
    exact (hsequence.append hs).append hreset

end Screen

namespace Duration

theorem esc_notMem_render (d : Duration) : esc ∉ d.render := by
  have hunit (n : Nat) {unit : Text} (h : esc ∉ unit) : esc ∉ Text.ofNat n ++ unit := by
    rw [List.mem_append, not_or]
    exact ⟨Text.notMem_ofNat (by decide) n, h⟩
  have hseconds (ms : Nat) : esc ∉ seconds ms := by
    rw [seconds, List.append_assoc]
    refine hunit _ ?_
    rw [List.mem_append, not_or]
    refine ⟨?_, by decide⟩
    split
    · exact List.not_mem_nil
    · rw [List.mem_cons, not_or]
      exact ⟨by decide, fun h => absurd (isDigit_of_mem_places h) (by decide)⟩
  have hminutes (n ms : Nat) : esc ∉ Text.ofNat n ++ ['m'] ++ seconds ms := by
    rw [List.mem_append, not_or]
    exact ⟨hunit n (by decide), hseconds ms⟩
  rw [render, ofMilliseconds]
  split
  · decide
  split
  · exact hunit _ (by decide)
  split
  · exact hseconds _
  split
  · exact hminutes _ _
  · rw [List.append_assoc, List.mem_append, not_or]
    exact ⟨hunit _ (by decide), hminutes _ _⟩

end Duration

namespace Session

/-- The summary of an outcome is self-contained if its reason is. -/
theorem Outcome.selfContained_summary {o : Outcome}
    (h : ∀ reason, o.failure = some reason → esc ∉ reason) : SelfContained o.summary := by
  have hheadline : esc ∉ o.headline := by
    rw [headline]
    split
    · decide
    · split
      · next reason hreason =>
        rw [List.mem_append, not_or]
        exact ⟨by decide, h reason hreason⟩
      · rw [List.mem_append, not_or]
        refine ⟨by decide, ?_⟩
        cases o.exitCode with
        | ofNat n => exact Text.notMem_ofNat (by decide) n
        | negSucc n =>
          rw [Text.ofInt, List.mem_cons, not_or]
          exact ⟨by decide, Text.notMem_ofNat (by decide) _⟩
  have hduration : esc ∉ "Duration: ".toList ++ o.duration.render := by
    rw [List.mem_append, not_or]
    exact ⟨by decide, o.duration.esc_notMem_render⟩
  have hdashes : esc ∉ List.replicate ruleWidth '-' := notMem_dashes (by decide) _
  have hplain {s : Text} (hs : esc ∉ s) : SelfContained s := selfContained_of_visible hs
  delta summary
  refine .append (.append (.append (.append (.append (.append (.append (.append ?_ ?_) ?_) ?_) ?_)
    ?_) ?_) ?_) ?_
  · exact hplain (by decide)
  · exact Screen.selfContained_paint hdashes _
  · exact hplain (by decide)
  · exact Screen.selfContained_paint hheadline _
  · exact hplain (by decide)
  · exact Screen.selfContained_paint hduration _
  · exact hplain (by decide)
  · exact Screen.selfContained_paint (by decide) _
  · exact hplain (by decide)

/-! ## Events -/

/-- Nobody puts ESC into the text: output comes out of a stream, the reason of a failure
has none, and none is typed. -/
def Event.IsClean : Event → Prop
  | .output text => Styled.Released text
  | .exited outcome => ∀ reason, outcome.failure = some reason → esc ∉ reason
  | .key k => k.code ≠ .char esc
  | _ => True

namespace Hosted

/-- What an event puts behind the text is self-contained. -/
theorem selfContained_handle {s : Hosted} (hs : SelfContained s.content) {e : Event}
    (he : e.IsClean) : SelfContained (s.handle e).1.content := by
  cases hquiet : e.isOutput with
  | false =>
    obtain ⟨stage, generation, shown, input, finished, offset, -, -, hnext⟩ := s.handle_eq hquiet
    rw [hnext]
    exact hs
  | true =>
    cases e with
    | output text => exact hs.append (Styled.Released.selfContained he)
    | resize width height => exact hs
    | exited outcome =>
      have habandon : s.abandon.1.content = s.content := by rw [abandon_eq]
      show SelfContained (s.abandon.1.content ++ outcome.summary)
      rw [habandon]
      exact hs.append (Outcome.selfContained_summary he)
    | _ => cases hquiet

end Hosted

namespace Transcript

/-- The text is self-contained, and the line that is typed has no ESC in it. -/
structure IsClean (t : Transcript) : Prop where
  content : SelfContained t.content
  pending : esc ∉ t.pending

theorem IsClean.output {t : Transcript} (ht : t.IsClean) {text : Text}
    (h : SelfContained text) : (t.output text).IsClean :=
  ⟨ht.content.append h, List.not_mem_nil⟩

theorem IsClean.enter {t : Transcript} (ht : t.IsClean) : t.enter.IsClean :=
  ⟨(ht.content.append (selfContained_of_visible ht.pending)).append
    (selfContained_of_visible (by decide)), List.not_mem_nil⟩

theorem IsClean.takeBack {t : Transcript} (ht : t.IsClean) : t.takeBack.IsClean :=
  ⟨ht.content, fun h => ht.pending ((List.dropLast_sublist t.pending).mem h)⟩

theorem IsClean.type {t : Transcript} (ht : t.IsClean) {c : Char} (hc : c ≠ esc) :
    (t.type c).IsClean := by
  refine ⟨ht.content, ?_⟩
  rw [Transcript.type, List.mem_append, not_or, List.mem_singleton]
  exact ⟨ht.pending, hc.symm⟩

end Transcript

namespace Piped

theorem isClean_echoed {s : Piped} (hs : s.transcript.IsClean) {c : Char} (hc : c ≠ esc) :
    (s.echoed c).IsClean := by
  rw [echoed]
  split
  · exact hs.type hc
  · exact hs

/-- What a key leaves in the transcript. -/
theorem isClean_typed {s : Piped} (hs : s.transcript.IsClean) {k : Key} (hk : k.code ≠ .char esc)
    {bytes? : Option (List UInt8)} {transcript : Transcript}
    (h : s.typed? k = some (bytes?, transcript)) : transcript.IsClean := by
  obtain ⟨code, ctrl, alt, shift, action⟩ := k
  cases code
  case enter =>
    obtain ⟨-, rfl⟩ := Prod.mk.inj (Option.some.inj h)
    exact hs.enter
  case backspace =>
    obtain ⟨-, rfl⟩ := Prod.mk.inj (Option.some.inj h)
    exact hs.takeBack
  case tab =>
    obtain ⟨-, rfl⟩ := Prod.mk.inj (Option.some.inj h)
    exact isClean_echoed hs (by decide)
  case escape =>
    obtain ⟨-, rfl⟩ := Prod.mk.inj (Option.some.inj h)
    exact hs
  case char c =>
    have hc : c ≠ esc := fun heq => hk (congrArg KeyCode.char heq)
    rw [typed?] at h
    dsimp only at h
    split at h
    · obtain ⟨-, rfl⟩ := Prod.mk.inj (Option.some.inj h)
      exact isClean_echoed hs hc
    · obtain ⟨-, rfl⟩ := Prod.mk.inj (Option.some.inj h)
      exact hs
  all_goals cases h

theorem isClean_handle {s : Piped} (hs : s.transcript.IsClean) {e : Event} (he : e.IsClean) :
    (s.handle e).1.transcript.IsClean := by
  cases e with
  | key k =>
    rw [handle]
    rcases s.handleKey_cases k with ⟨-, finished, offset, hkey⟩ |
      ⟨-, -, input, finished, effects, -, -, hkey⟩ | ⟨-, -, bytes?, transcript, htyped, hkey⟩
    · rw [hkey]
      exact hs
    · rw [hkey]
      exact hs
    · rw [hkey]
      exact isClean_typed hs he htyped
  | output text => exact hs.output (Styled.Released.selfContained he)
  | exited outcome => exact hs.output (Outcome.selfContained_summary he)
  | resize width height => exact hs
  | requested ticket => exact hs
  | widget generation m => exact hs

end Piped

/-! ## The whole -/

/-- **What a stream lets through can be shown anywhere, and little is held back.**  After any
chunks the bytes that wait keep to the limit.  Whatever streams let through, with a chunk or
at their end, has only visible text and complete sequences in it that are no commands, and
the same is true of such texts put together in any way; above all of the text of a session,
whether its command has a terminal or pipes. -/
theorem scrollback_self_contained :
    (∀ chunks, (Styled.Stream.empty.pushAll chunks).2.held.length ≤ Styled.heldLimit) ∧
    (∀ text, Styled.Released text → SelfContained text) ∧
    (∀ texts : List Text, (∀ text ∈ texts, Styled.Released text) → SelfContained texts.flatten) ∧
    (∀ caption theme files input (events : List Event), (∀ e ∈ events, e.IsClean) →
      SelfContained (after (Hosted.make caption theme files input) events).content) ∧
    ∀ caption echo input (events : List Event), (∀ e ∈ events, e.IsClean) →
      SelfContained (after (Piped.make caption echo input) events).transcript.content := by
  refine ⟨Styled.Stream.length_held_pushAll_le (Nat.zero_le _),
    fun text => Styled.Released.selfContained,
    fun texts htexts => Styled.selfContained_flatten fun text ht => (htexts text ht).selfContained,
    fun caption theme files input events hevents => ?_,
    fun caption echo input events hevents => ?_⟩
  · exact after_invariant_of (P := fun s : Hosted => SelfContained s.content)
      (fun s e hs he => s.selfContained_handle hs he) Styled.selfContained_nil hevents
  · have hclean : (after (Piped.make caption echo input) events).transcript.IsClean :=
      after_invariant_of (P := fun s : Piped => s.transcript.IsClean)
        (fun s e hs he => s.isClean_handle hs he)
        ⟨Styled.selfContained_nil, List.not_mem_nil⟩ hevents
    exact hclean.content

/-- Output that is cut inside a colour and inside a command, behind it a line that is typed and
the summary of a failure. -/
theorem scrollback_self_contained_cut :
    let stream := (Styled.Stream.empty.pushAll Styled.cutOutput).2
    let last := [0x1b, 0x5d, 0x30]
    let texts := [(stream.push last).1, (stream.push last).2.finish]
    let events : List Event := texts.map Event.output ++
      [.key { code := .char 'a' }, .key { code := .enter }, .exited .interrupted]
    (stream.push last).2.held.length ≤ Styled.heldLimit ∧ SelfContained texts.flatten ∧
      SelfContained (after (Piped.make {} true .working) events).transcript.content := by
  intro stream last texts events
  have htexts : ∀ text ∈ texts, Styled.Released text := by
    have hfinish := Styled.Released.finish (Styled.cutOutput ++ [last])
    refine List.forall_mem_cons.mpr ⟨.push Styled.cutOutput last,
      List.forall_mem_singleton.mpr ?_⟩
    exact hfinish
  have hevents : ∀ e ∈ events, e.IsClean := by
    have hletter : KeyCode.char 'a' ≠ .char esc := by decide
    have henter : KeyCode.enter ≠ .char esc := by decide
    have hreason : ∀ reason, Outcome.interrupted.failure = some reason → esc ∉ reason := by
      rintro reason ⟨rfl⟩
      decide
    refine List.forall_mem_append.mpr ⟨fun e he => ?_, List.forall_mem_cons.mpr ⟨hletter,
      List.forall_mem_cons.mpr ⟨henter, List.forall_mem_singleton.mpr hreason⟩⟩⟩
    obtain ⟨text, ht, rfl⟩ := List.mem_map.mp he
    exact htexts text ht
  obtain ⟨hheld, -, hflatten, -, hpiped⟩ := scrollback_self_contained
  exact ⟨hheld (Styled.cutOutput ++ [last]), hflatten texts htexts,
    hpiped {} true .working events hevents⟩

end Session
end TerminalDialogs
