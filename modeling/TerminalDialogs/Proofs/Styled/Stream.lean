import TerminalDialogs.Proofs.Styled.Swallow

/-!
# Cuts in the output cannot be seen

What a stream lets through does not depend on where its chunks end: it is the
decoded whole without its commands (`push_chunks`).

A stream is compared with the place at which a reader of the same bytes stands
(`Stands`).  If it holds bytes back, they are those of the sequence and of the
character that the reader is inside of, and reading them again with the next
chunk leads to the same place (`absorb_held`).  Otherwise it swallows a sequence
that the reader is inside of.

## The limit

Only a control sequence that was given up makes a difference, since a command is
not let through in any case.  Such a sequence is longer than the limit when it
is given up, and it does not get shorter, so there is none when every complete
control sequence keeps to the limit.
-/

namespace TerminalDialogs
namespace Styled

open Utf8 (encode)

/-! ## What is let through -/

theorem spellWithoutCommands_append (ts us : List Token) :
    spellWithoutCommands (ts ++ us) = spellWithoutCommands ts ++ spellWithoutCommands us := by
  rw [spellWithoutCommands, List.filter_append, spell_append]
  rfl

theorem spellWithoutCommands_command {sequence : Text} (h : isCommand sequence = true)
    (ts : List Token) :
    spellWithoutCommands (.escape sequence :: ts) = spellWithoutCommands ts := by
  rw [spellWithoutCommands, List.filter_cons, if_neg (by simp [h])]
  rfl

/-- The unfinished sequence at the end is split off. -/
theorem splitUnfinished_append_tail {ts : List Token} (h : ∀ t ∈ ts, t.isUnfinished = false)
    (state : Scan) : splitUnfinished (ts ++ state.tail) = (ts, state.pending) := by
  induction ts with
  | nil =>
    rcases state with _ | ⟨opening, seen⟩
    · rfl
    · rfl
  | cons t ts ih =>
    have ht := h t List.mem_cons_self
    have hts := ih fun u hu => h u (List.mem_cons_of_mem t hu)
    rcases t with c | sequence | sequence
    · rw [List.cons_append, splitUnfinished, hts]
      exact fun _ h => by cases h
    · rw [List.cons_append, splitUnfinished, hts]
      exact fun _ h => by cases h
    · exact absurd ht (by simp [Token.isUnfinished])

/-- The tokens of a text, split as the reader leaves them. -/
theorem splitUnfinished_tokens (s : Text) :
    splitUnfinished (tokens s) = ((Scan.readAll none s).1, (Scan.readAll none s).2.pending) := by
  rw [tokens_eq_readAll]
  exact splitUnfinished_append_tail (fun _ ht => isUnfinished_eq_false_of_mem_readAll ht) _

/-- A text without its commands, as the reader lets it through. -/
theorem stripCommands_eq (s : Text) :
    stripCommands s = spellWithoutCommands (Scan.readAll none s).1 := by
  have hfin : ∀ t ∈ (Scan.readAll none s).1, t.isUnfinished = false :=
    fun _ ht => isUnfinished_eq_false_of_mem_readAll ht
  unfold stripCommands spellWithoutCommands
  rw [tokens_eq_readAll, List.filter_append, spell_append]
  generalize Scan.readAll none s = read at hfin ⊢
  obtain ⟨ts, state⟩ := read
  -- the tail is dropped, and no other token is unfinished
  have htail : ∀ t ∈ state.tail, t.isUnfinished = true := fun _ ht => isUnfinished_of_mem_tail ht
  dsimp only at hfin ⊢
  rw [(List.filter_eq_nil_iff (l := state.tail)).mpr fun t ht => ?_, spell_nil, List.append_nil]
  · refine congrArg spell (List.filter_congr fun t ht => ?_)
    rcases t with c | sequence | sequence
    · rfl
    · rfl
    · exact absurd (hfin _ ht) (by simp [Token.isUnfinished])
  · rcases t with c | sequence | sequence
    · exact absurd (htail _ ht) (by simp [Token.isUnfinished])
    · exact absurd (htail _ ht) (by simp [Token.isUnfinished])
    · exact Bool.false_ne_true

/-! ## Chunks -/

/-- How a stream stands when the reader of the same bytes is at a place. -/
inductive Stands (p : Place) : Stream → Prop where
  /-- It holds back the bytes of the place. -/
  | holding : Stands p { held := p.held }
  /-- It has given up a sequence that the reader is still inside of. -/
  | swallowing (swallow : Swallow) (tracks : Tracks swallow p)
      (long : heldLimit < p.held.length) : Stands p { held := [], swallowing := some swallow }

/-- A sequence that is too long is one that has an end to wait for. -/
theorem exists_tracks_of_long {p : Place} (hp : p.Sound) (hlong : heldLimit < p.held.length) :
    p.scan.pending.isEmpty = false ∧ ∃ swallow, Tracks swallow p ∧
      Swallow.ofUnfinished p.scan.pending (Utf8.State.bytes p.state) = some swallow := by
  have hbytes := Utf8.length_bytes_le hp.state
  have hempty := Utf8.isEmpty_bytes hp.state
  have hshaped := hp.scan.shaped
  obtain ⟨scan, state⟩ := p
  rw [Place.held, List.length_append, heldLimit] at hlong
  rcases scan with _ | ⟨_ | _ | afterEsc, seen⟩
  · -- nothing but a character that has begun
    rw [Scan.pending_none, Utf8.encode_nil, List.length_nil] at hlong
    dsimp only at hlong hbytes
    omega
  · -- nothing but ESC and a character that has begun
    have hseen : seen.reverse = [esc] := hshaped
    have hesc : (encode [esc]).length = 1 := by decide
    rw [Scan.pending, hseen, hesc] at hlong
    dsimp only at hlong hbytes
    omega
  · obtain ⟨body, hbody⟩ := hshaped
    rw [Scan.pending, hbody]
    exact ⟨rfl, _, Tracks.control seen state, rfl⟩
  · obtain ⟨⟨body, hbody⟩, hafter⟩ := hshaped
    refine ⟨by rw [Scan.pending, hbody]; rfl, _, Tracks.command afterEsc seen state, ?_⟩
    have hlast : (Swallow.ofUnfinished seen.reverse (Utf8.State.bytes state)) =
        some (.command
          ((Utf8.State.bytes state).isEmpty && seen.reverse.getLast? == some esc)) := by
      rw [hbody]
      rfl
    rw [Scan.pending, hlast, ← hafter, hempty, Bool.and_comm]

/-- **What is held back is read again** with the next chunk, from where it
stands. -/
theorem absorb_held {p : Place} (hp : p.Sound) (chunk : List UInt8) :
    (Stream.absorb p.held chunk).1 = spellWithoutCommands (p.readAll chunk).1 ∧
      Stands (p.readAll chunk).2 (Stream.absorb p.held chunk).2 := by
  have hread : Place.start.readAll (p.held ++ chunk) = p.readAll chunk := by
    rw [Place.readAll_append, Place.readAll_held hp]
    rfl
  have hsound := hp.readAll chunk
  rw [← hread] at hsound ⊢
  generalize hbytes : p.held ++ chunk = bytes at hsound ⊢
  have habsorb : Stream.absorb p.held chunk =
      if heldLimit < (Place.start.readAll bytes).2.held.length then
        (spellWithoutCommands (Place.start.readAll bytes).1,
          { held := if (Place.start.readAll bytes).2.scan.pending.isEmpty then
              (Place.start.readAll bytes).2.held else []
            swallowing := Swallow.ofUnfinished (Place.start.readAll bytes).2.scan.pending
              (Utf8.State.bytes (Place.start.readAll bytes).2.state) })
      else (spellWithoutCommands (Place.start.readAll bytes).1,
        { held := (Place.start.readAll bytes).2.held }) := by
    rw [Stream.absorb, Utf8.decodeOpen, hbytes]
    simp only [splitUnfinished_tokens]
    rfl
  rw [habsorb]
  by_cases hlong : heldLimit < (Place.start.readAll bytes).2.held.length
  · obtain ⟨hpending, swallow, htracks, hgiven⟩ := exists_tracks_of_long hsound hlong
    rw [if_pos hlong, hpending, hgiven]
    exact ⟨rfl, Stands.swallowing swallow htracks hlong⟩
  · rw [if_neg hlong]
    exact ⟨rfl, Stands.holding⟩

/-- Complete control sequences keep to the limit of what is held back. -/
def KeepsLimit (ts : List Token) : Prop :=
  ∀ sequence, Token.escape sequence ∈ ts → isControl sequence = true →
    (encode sequence).length ≤ heldLimit

/-- **One chunk.**  A stream lets through what the reader completes, without
commands, and stands at the reader's place again. -/
theorem Stands.push {p : Place} {stream : Stream} (h : Stands p stream) (hp : p.Sound)
    {chunk : List UInt8} (hlimit : KeepsLimit (p.readAll chunk).1) :
    (stream.push chunk).1 = spellWithoutCommands (p.readAll chunk).1 ∧
      Stands (p.readAll chunk).2 (stream.push chunk).2 := by
  cases h with
  | holding => exact absorb_held hp chunk
  | swallowing swallow htracks hlong =>
    have hrun := htracks.run hp chunk
    rw [Stream.push]
    dsimp only
    rcases hrest : swallow.run chunk with swallow' | rest
    · rw [hrest] at hrun
      obtain ⟨hnone, htracks', hlen⟩ := hrun
      rw [hnone]
      exact ⟨rfl, Stands.swallowing swallow' htracks' (Nat.lt_of_lt_of_le hlong hlen)⟩
    · rw [hrest] at hrun
      obtain ⟨sequence, hread, hkind⟩ := hrun
      -- a control sequence that was given up would exceed the limit
      have hcommand : isCommand sequence = true := hkind.resolve_right fun hcontrol => by
        have hle := hlimit sequence (by rw [hread]; exact List.mem_cons_self) hcontrol.1
        have hlt := hcontrol.2
        omega
      rw [hread, spellWithoutCommands_command hcommand]
      exact absorb_held Place.sound_start rest

/-- The end of the output lets through what the end completes. -/
theorem Stands.finish {p : Place} {stream : Stream} (h : Stands p stream) (hp : p.Sound) :
    stream.finish = spellWithoutCommands (p.scan.readAll p.state.flush).1 := by
  cases h with
  | holding =>
    rw [Stream.finish, splitUnfinished_tokens, Utf8.decodeLossy_eq, Place.feedAll_held hp,
      Scan.readAll_append, show Scan.readAll none p.scan.pending = _ from hp.scan]
    rfl
  | swallowing swallow htracks hlong =>
    obtain ⟨seen, hflush⟩ := htracks.readAll_flush
    rw [hflush]
    rfl

/-- Takes chunks one after the other. -/
def Stream.pushAll : Stream → List (List UInt8) → Text × Stream
  | stream, [] => ([], stream)
  | stream, chunk :: chunks =>
      let now := stream.push chunk
      let later := pushAll now.2 chunks
      (now.1 ++ later.1, later.2)

theorem Stands.pushAll {p : Place} {stream : Stream} (h : Stands p stream) (hp : p.Sound)
    {chunks : List (List UInt8)} (hlimit : KeepsLimit (p.readAll chunks.flatten).1) :
    (stream.pushAll chunks).1 = spellWithoutCommands (p.readAll chunks.flatten).1 ∧
      Stands (p.readAll chunks.flatten).2 (stream.pushAll chunks).2 := by
  induction chunks generalizing p stream with
  | nil => exact ⟨rfl, h⟩
  | cons chunk chunks ih =>
    rw [List.flatten_cons, Place.readAll_append] at hlimit ⊢
    have hnow := h.push hp fun sequence hmem => hlimit sequence (List.mem_append_left _ hmem)
    have hlater := ih hnow.2 (hp.readAll chunk)
      fun sequence hmem => hlimit sequence (List.mem_append_right _ hmem)
    rw [Stream.pushAll]
    dsimp only
    rw [hnow.1, hlater.1, spellWithoutCommands_append]
    exact ⟨rfl, hlater.2⟩

/-- The characters of the whole are those that the reader completes and those
that the end completes. -/
theorem readAll_decodeLossy (bytes : List UInt8) :
    (Scan.readAll none (Utf8.decodeLossy bytes)).1 =
      (Place.start.readAll bytes).1 ++ ((Place.start.readAll bytes).2.scan.readAll
        (Place.start.readAll bytes).2.state.flush).1 := by
  rw [Utf8.decodeLossy_eq, Scan.readAll_append]
  rfl

/-- **Cuts in the output cannot be seen.**  However bytes are cut into chunks,
also inside characters and sequences, a stream lets through the decoded whole
without its commands, as long as complete control sequences keep to the limit of
what is held back. -/
theorem push_chunks (chunks : List (List UInt8))
    (hlimit : KeepsLimit (tokens (Utf8.decodeLossy chunks.flatten))) :
    (Stream.empty.pushAll chunks).1 ++ (Stream.empty.pushAll chunks).2.finish =
      stripCommands (Utf8.decodeLossy chunks.flatten) := by
  have hkeeps : KeepsLimit (Place.start.readAll chunks.flatten).1 := fun sequence hmem =>
    hlimit sequence (by
      rw [tokens_eq_readAll, readAll_decodeLossy]
      exact List.mem_append_left _ (List.mem_append_left _ hmem))
  obtain ⟨hpush, hstands⟩ :=
    Stands.pushAll (p := Place.start) Stands.holding Place.sound_start hkeeps
  have hfinish := hstands.finish (Place.sound_start.readAll _)
  rw [stripCommands_eq, readAll_decodeLossy, spellWithoutCommands_append, ← hpush, ← hfinish]
  rfl

/-- Output in which a colour, a command, a character of the command and the two
characters that end it are all cut, and with a byte that belongs to nothing. -/
def cutOutput : List (List UInt8) :=
  [[0x61, 0x1b], [0x5b, 0x33], [], [0x31, 0x6d, 0x1b], [0x5d, 0xe2, 0x82], [0xac, 0x1b],
    [0x5c, 0xff, 0x7a]]

theorem push_cutOutput :
    KeepsLimit (tokens (Utf8.decodeLossy cutOutput.flatten)) ∧
      (Stream.empty.pushAll cutOutput).1 ++ (Stream.empty.pushAll cutOutput).2.finish =
        stripCommands (Utf8.decodeLossy cutOutput.flatten) := by
  have htokens : tokens (Utf8.decodeLossy cutOutput.flatten) =
      [.char 'a', .escape "\x1b[31m".toList, .escape "\x1b]€\x1b\\".toList,
        .char Utf8.replacement, .char 'z'] := by
    decide +kernel
  have hlimit : KeepsLimit (tokens (Utf8.decodeLossy cutOutput.flatten)) := by
    rw [htokens]
    intro sequence hmem _
    simp only [List.mem_cons, List.not_mem_nil, reduceCtorEq, Token.escape.injEq, or_false,
      false_or] at hmem
    rcases hmem with rfl | rfl
    · decide
    · decide
  exact ⟨hlimit, push_chunks cutOutput hlimit⟩

end Styled
end TerminalDialogs
