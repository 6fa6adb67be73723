import Mathlib.Data.List.Chain
import TerminalDialogs.Proofs.Styled.Sequence

/-!
# The runs of a text

Which texts are sequences can be said without reading them: by how they begin and how they
end (`IsSequence`).  Said in this way a sequence may begin with a shorter one, and it is the
machine that decides where it ends, by stopping at the first end there is.  So what the
machine completes is exactly a sequence that begins with no shorter one
(`complete_escape_iff`), and what it leaves unfinished begins with none at all
(`tokens_eq_unfinished_iff`).  Both come down to one fact: a text that begins with ESC
completes something when it is read if and only if it begins with a sequence
(`readAll_eq_nil_iff`).

The runs of a text spell it, each of them is what its kind says (`Run.Fits`), and two of
them that stand side by side could not be one (`Run.Meets`).  There is only one way to cut a
text like that (`runs_eq_iff`), so these three properties are all that runs are.

A text that ends between sequences does not change how anything behind it is cut.  This is
said of the tokens that runs are put together from, and not of the runs: visible text on
both sides of the joint becomes one run.
-/

namespace TerminalDialogs
namespace Styled

variable {s p sequence : Text} {t : Token} {ts : List Token} {r : Run} {rs : List Run}

/-! ## Sequences by their beginning and their end -/

/-- The texts that are a sequence by how they begin and end, whatever stands in between. -/
inductive IsSequence : Text → Prop
  /-- A control sequence, up to a final character. -/
  | control (body : Text) {final : Char} (h : isFinal final = true) :
      IsSequence (esc :: '[' :: body ++ [final])
  /-- A command, up to BEL. -/
  | belled (body : Text) : IsSequence (esc :: ']' :: body ++ [bel])
  /-- A command, up to ESC and a backslash. -/
  | terminated (body : Text) : IsSequence (esc :: ']' :: body ++ [esc, '\\'])
  /-- ESC and any other character. -/
  | short {c : Char} (h : c ≠ '[') (h' : c ≠ ']') : IsSequence [esc, c]

theorem IsSequence.head?_eq (h : IsSequence s) : s.head? = some esc := by
  cases h with
  | control | belled | terminated | short => rfl

theorem shaped_none : Scan.Shaped none := trivial

theorem head?_of_shaped {opening : Opening} {seen : Text}
    (h : Scan.Shaped (some (opening, seen))) : seen.reverse.head? = some esc := by
  rcases opening with _ | _ | afterEsc
  · have hseen : seen.reverse = [esc] := h
    rw [hseen]
    rfl
  · obtain ⟨body, hseen⟩ := h
    rw [hseen]
    rfl
  · obtain ⟨⟨body, hseen⟩, -⟩ := h
    rw [hseen]
    rfl

/-- The machine is done only where a sequence ends. -/
theorem isSequence_of_next {opening : Opening} {seen : Text} {c : Char}
    (hshaped : Scan.Shaped (some (opening, seen))) (h : opening.next c = none) :
    IsSequence (c :: seen).reverse := by
  rw [List.reverse_cons]
  rcases opening with _ | _ | afterEsc
  · have hseen : seen.reverse = [esc] := hshaped
    rw [hseen]
    refine .short ?_ ?_
    · rintro rfl
      cases h
    · rintro rfl
      cases h
  · obtain ⟨body, hseen⟩ := hshaped
    rw [hseen]
    refine .control body ?_
    by_contra hc
    rw [Opening.next, if_neg hc] at h
    cases h
  · obtain ⟨⟨body, hseen⟩, hafter⟩ := hshaped
    rw [hseen] at hafter ⊢
    have hend : c = bel ∨ (afterEsc = true ∧ c = '\\') := by
      by_contra hc
      rw [Opening.next, if_neg hc] at h
      cases h
    rcases hend with rfl | ⟨rfl, rfl⟩
    · exact .belled body
    · -- the ESC in front of the backslash is not the one that the command begins with
      rcases List.eq_nil_or_concat' body with rfl | ⟨front, last, rfl⟩
      · exact absurd hafter (by decide)
      · rw [← List.cons_append, ← List.cons_append, List.getLast?_concat] at hafter
        have hlast : last = esc := by simpa using hafter
        rw [hlast, ← List.cons_append, ← List.cons_append, List.append_assoc]
        exact .terminated front

/-- What a character completes is a visible character or a sequence. -/
theorem isSequence_of_mem_read {state : Scan} (hshaped : state.Shaped) {c : Char}
    (h : .escape sequence ∈ (state.read c).1) : IsSequence sequence := by
  rcases state with _ | ⟨opening, seen⟩
  · by_cases hc : c = esc
    · rw [Scan.read, if_pos hc] at h
      exact absurd h List.not_mem_nil
    · rw [Scan.read, if_neg hc] at h
      cases List.mem_singleton.mp h
  · rw [Scan.read] at h
    cases hnext : opening.next c with
    | none =>
      rw [hnext] at h
      obtain rfl : sequence = (c :: seen).reverse := Token.escape.inj (List.mem_singleton.mp h)
      exact isSequence_of_next hshaped hnext
    | some opening' =>
      rw [hnext] at h
      exact absurd h List.not_mem_nil

theorem isSequence_of_mem_readAll {state : Scan} (hshaped : state.Shaped)
    (h : .escape sequence ∈ (state.readAll s).1) : IsSequence sequence := by
  induction s generalizing state with
  | nil => exact absurd h List.not_mem_nil
  | cons c s ih =>
    rw [Scan.readAll_cons, List.mem_append] at h
    rcases h with h | h
    · exact isSequence_of_mem_read hshaped h
    · exact ih (read_shaped hshaped c) h

/-! ## Where the machine stops -/

/-- What a character completes is completed by any text that begins with it. -/
theorem readAll_cons_ne_nil {opening : Opening} {c : Char} (h : opening.next c = none)
    (seen s : Text) : (Scan.readAll (some (opening, seen)) (c :: s)).1 ≠ [] := by
  rw [Scan.readAll_cons, Scan.read, h]
  exact List.cons_ne_nil _ _

theorem readAll_of_next {opening opening' : Opening} {c : Char}
    (h : opening.next c = some opening') (seen s : Text) :
    Scan.readAll (some (opening, seen)) (c :: s) =
      Scan.readAll (some (opening', c :: seen)) s := by
  rw [Scan.readAll_cons, Scan.read, h]
  rfl

/-- A control sequence ends at a final character, if not before it. -/
theorem readAll_control_ne_nil (seen body : Text) {final : Char} (h : isFinal final = true) :
    (Scan.readAll (some (.control, seen)) (body ++ [final])).1 ≠ [] := by
  induction body generalizing seen with
  | nil => exact readAll_cons_ne_nil (Opening.control_ends h) seen []
  | cons c body ih =>
    by_cases hc : isFinal c = true
    · exact readAll_cons_ne_nil (Opening.control_ends hc) seen _
    · have hnext : Opening.next .control c = some .control :=
        Opening.control_next (Bool.eq_false_iff.mpr hc)
      rw [List.cons_append, readAll_of_next hnext]
      exact ih _

/-- A command ends where BEL or ESC and a backslash stand, if not before them. -/
theorem readAll_command_ne_nil (afterEsc : Bool) (seen body : Text) {stop : Text}
    (h : stop = [bel] ∨ stop = [esc, '\\']) :
    (Scan.readAll (some (.command afterEsc, seen)) (body ++ stop)).1 ≠ [] := by
  induction body generalizing afterEsc seen with
  | nil =>
    rcases h with rfl | rfl
    · exact readAll_cons_ne_nil (Opening.command_ends (Or.inl rfl)) seen []
    · have hnext : Opening.next (.command afterEsc) esc = some (.command true) :=
        Opening.command_next fun h => h.elim (by decide) fun h => absurd h.2 (by decide)
      rw [List.nil_append, readAll_of_next hnext]
      exact readAll_cons_ne_nil (Opening.command_ends (Or.inr ⟨rfl, rfl⟩)) _ []
  | cons c body ih =>
    by_cases hc : c = bel ∨ (afterEsc = true ∧ c = '\\')
    · exact readAll_cons_ne_nil (Opening.command_ends hc) seen _
    · rw [List.cons_append, readAll_of_next (Opening.command_next hc)]
      exact ih _ _

/-- Reading a sequence completes something, at its end or before. -/
theorem IsSequence.readAll_ne_nil (h : IsSequence s) : (Scan.readAll none s).1 ≠ [] := by
  cases h with
  | control body hfinal => exact readAll_control_ne_nil ['[', esc] body hfinal
  | belled body => exact readAll_command_ne_nil false [']', esc] body (Or.inl rfl)
  | terminated body => exact readAll_command_ne_nil false [']', esc] body (Or.inr rfl)
  | @short c hbracket hcommand =>
    have hdone : Opening.next .bare c = none := by
      rw [Opening.next, if_neg hbracket, if_neg hcommand]
    exact readAll_cons_ne_nil hdone [esc] []

theorem readAll_eq_nil_of_isPrefix (h : p <+: s) (hs : (Scan.readAll none s).1 = []) :
    (Scan.readAll none p).1 = [] := by
  obtain ⟨rest, rfl⟩ := h
  rw [Scan.readAll_append] at hs
  exact (List.append_eq_nil_iff.mp hs).1

theorem Token.Complete.ne_esc {c : Char} (h : (Token.char c).Complete) : c ≠ esc := by
  rintro rfl
  exact nomatch (show Scan.readAll none [esc] = ([.char esc], none) from h)

/-- A text that begins with ESC and completes something begins with a sequence that the
machine reads as one. -/
theorem exists_complete_of_readAll_ne_nil (hesc : s.head? = some esc)
    (h : (Scan.readAll none s).1 ≠ []) :
    ∃ p, p <+: s ∧ IsSequence p ∧ (Token.escape p).Complete := by
  obtain ⟨t, ts, hread⟩ := List.exists_cons_of_ne_nil h
  have hmem : t ∈ (Scan.readAll none s).1 := hread ▸ List.mem_cons_self
  have hcomplete : t.Complete := (readAll_of_sound Scan.sound_none s).2 t hmem
  have hprefix : t.text <+: s := by
    refine ⟨spell ts ++ (Scan.readAll none s).2.pending, ?_⟩
    have hspell := spell_readAll none s
    rwa [hread, spell_cons, List.append_assoc] at hspell
  rcases t with c | sequence | sequence
  · obtain ⟨rest, rfl⟩ := hprefix
    exact absurd (Option.some.inj hesc) hcomplete.ne_esc
  · exact ⟨sequence, hprefix, isSequence_of_mem_readAll shaped_none hmem, hcomplete⟩
  · exact nomatch hcomplete.isUnfinished_eq_false

/-- **A text that begins with ESC completes nothing exactly if it begins with no sequence.** -/
theorem readAll_eq_nil_iff (hesc : s.head? = some esc) :
    (Scan.readAll none s).1 = [] ↔ ∀ p, p <+: s → ¬ IsSequence p := by
  constructor
  · intro h p hp hsequence
    exact hsequence.readAll_ne_nil (readAll_eq_nil_of_isPrefix hp h)
  · intro h
    by_contra hne
    obtain ⟨p, hp, hsequence, -⟩ := exists_complete_of_readAll_ne_nil hesc hne
    exact h p hp hsequence

/-- **What is completed is a sequence that begins with no shorter one.** -/
theorem complete_escape_iff : (Token.escape sequence).Complete ↔
    IsSequence sequence ∧ ∀ p, p <+: sequence → IsSequence p → p = sequence := by
  constructor
  · intro h
    have hread : Scan.readAll none sequence = ([.escape sequence], none) := h
    have hsequence : IsSequence sequence := by
      have hmem : Token.escape sequence ∈ (Scan.readAll none sequence).1 := by
        rw [hread]
        exact List.mem_singleton_self _
      exact isSequence_of_mem_readAll shaped_none hmem
    refine ⟨hsequence, fun p hp hshorter => ?_⟩
    -- reading the shorter one completes the token, so it has all of its characters
    obtain ⟨t, ts, hts⟩ := List.exists_cons_of_ne_nil hshorter.readAll_ne_nil
    have hfirst : t = .escape sequence := by
      obtain ⟨rest, hrest⟩ := id hp
      have hparts := congrArg Prod.fst (Scan.readAll_append none p rest)
      rw [hrest, hread, hts] at hparts
      exact (List.cons.inj hparts).1.symm
    have hspell := congrArg List.length (spell_readAll none p)
    rw [hts, hfirst, spell_cons] at hspell
    simp only [List.length_append, Token.text, Scan.pending_none, List.nil_append] at hspell
    exact hp.eq_of_length_le (by omega)
  · rintro ⟨hsequence, hleast⟩
    obtain ⟨p, hp, hshorter, hcomplete⟩ :=
      exists_complete_of_readAll_ne_nil hsequence.head?_eq hsequence.readAll_ne_nil
    rwa [hleast p hp hshorter] at hcomplete

/-! ## Tokens by themselves

A token is read alone as it was read in its text, and for each kind of token this says what
the token looks like. -/

theorem tokens_text_of_mem (h : t ∈ tokens s) : tokens t.text = [t] := by
  cases hfinished : t.isUnfinished with
  | false =>
    have hread : Scan.readAll none t.text = ([t], none) := complete_of_mem_tokens h hfinished
    rw [tokens_eq_readAll, hread]
    rfl
  | true =>
    obtain ⟨hsound, -⟩ := readAll_of_sound Scan.sound_none s
    rw [tokens_eq_readAll, List.mem_append] at h
    have htail : t ∈ (Scan.readAll none s).2.tail := by
      refine h.resolve_left fun h => ?_
      rw [isUnfinished_eq_false_of_mem_readAll h] at hfinished
      exact nomatch hfinished
    rcases hstate : (Scan.readAll none s).2 with _ | ⟨opening, seen⟩
    · rw [hstate] at htail
      exact absurd htail List.not_mem_nil
    · rw [hstate] at htail hsound
      obtain rfl : t = .unfinished seen.reverse := List.mem_singleton.mp htail
      have hread : Scan.readAll none seen.reverse = ([], some (opening, seen)) := hsound
      rw [Token.text, tokens_eq_readAll, hread]
      rfl

theorem tokens_eq_char_iff {c : Char} : tokens [c] = [.char c] ↔ c ≠ esc := by
  constructor
  · rintro h rfl
    exact nomatch h
  · intro h
    exact tokens_of_visible (s := [c]) fun hmem => h (List.mem_singleton.mp hmem).symm

theorem tokens_eq_escape_iff : tokens sequence = [.escape sequence] ↔
    IsSequence sequence ∧ ∀ p, p <+: sequence → IsSequence p → p = sequence := by
  rw [← complete_escape_iff]
  constructor
  · intro h
    have hmem : Token.escape sequence ∈ tokens sequence := h ▸ List.mem_singleton_self _
    exact complete_of_mem_tokens hmem rfl
  · intro h
    have hread : Scan.readAll none sequence = ([.escape sequence], none) := h
    rw [tokens_eq_readAll, hread]
    rfl

/-- **What is left unfinished begins with ESC and with no sequence.** -/
theorem tokens_eq_unfinished_iff : tokens sequence = [.unfinished sequence] ↔
    sequence.head? = some esc ∧ ∀ p, p <+: sequence → ¬ IsSequence p := by
  have hspell := spell_readAll none sequence
  have hshaped := readAll_shaped shaped_none sequence
  constructor
  · intro h
    have hnone : (Scan.readAll none sequence).1 = [] := by
      rw [List.eq_nil_iff_forall_not_mem]
      intro t ht
      have hmem : t ∈ tokens sequence := by
        rw [tokens_eq_readAll]
        exact List.mem_append_left _ ht
      rw [h] at hmem
      rw [List.mem_singleton.mp hmem] at ht
      exact nomatch isUnfinished_eq_false_of_mem_readAll ht
    have hesc : sequence.head? = some esc := by
      rw [tokens_eq_readAll, hnone, List.nil_append] at h
      rw [hnone, spell_nil, List.nil_append, Scan.pending_none, List.nil_append] at hspell
      rcases hstate : (Scan.readAll none sequence).2 with _ | ⟨opening, seen⟩
      · rw [hstate] at h
        exact nomatch h
      · rw [hstate] at hshaped hspell
        rw [← hspell]
        exact head?_of_shaped hshaped
    exact ⟨hesc, (readAll_eq_nil_iff hesc).mp hnone⟩
  · rintro ⟨hesc, hnone⟩
    rw [← readAll_eq_nil_iff hesc] at hnone
    rw [hnone, spell_nil, List.nil_append, Scan.pending_none, List.nil_append] at hspell
    rw [tokens_eq_readAll, hnone, List.nil_append]
    rcases hstate : (Scan.readAll none sequence).2 with _ | ⟨opening, seen⟩
    · rw [hstate] at hspell
      rw [← hspell] at hesc
      exact nomatch hesc
    · rw [hstate] at hspell
      rw [← hspell]
      rfl

/-! ## Runs and tokens -/

/-- The characters that the run stands for. -/
def Run.spelling : Run → Text
  | .text s => s
  | .escape sequence => sequence
  | .unfinished sequence => sequence

/-- The tokens that the run is put together from. -/
def Run.tokens : Run → List Token
  | .text s => s.map .char
  | .escape sequence => [.escape sequence]
  | .unfinished sequence => [.unfinished sequence]

theorem Run.spell_tokens (r : Run) : spell r.tokens = r.spelling := by
  cases r with
  | text s =>
    show (s.map Token.char).flatMap Token.text = s
    rw [List.flatMap_map]
    exact List.flatMap_singleton' s
  | escape | unfinished => exact List.append_nil _

theorem flatMap_tokens_push (t : Token) (rs : List Run) :
    (Run.push t rs).flatMap Run.tokens = t :: rs.flatMap Run.tokens := by
  rcases t with c | sequence | sequence
  · rcases rs with _ | ⟨s | other | other, rs⟩
    all_goals rfl
  all_goals rfl

/-- The runs of a text are put together from its tokens and from nothing else. -/
theorem flatMap_tokens_runs (s : Text) : (runs s).flatMap Run.tokens = tokens s := by
  rw [runs]
  induction tokens s with
  | nil => rfl
  | cons t ts ih => rw [List.foldr_cons, flatMap_tokens_push, ih]

theorem spell_flatMap_tokens (rs : List Run) :
    spell (rs.flatMap Run.tokens) = rs.flatMap Run.spelling := by
  induction rs with
  | nil => rfl
  | cons r rs ih => rw [List.flatMap_cons, List.flatMap_cons, spell_append, r.spell_tokens, ih]

/-! ## What runs look like -/

/-- The run is what its kind says: visible text, a sequence that begins with no shorter one,
or the beginning of a sequence. -/
def Run.Fits : Run → Prop
  | .text s => s ≠ [] ∧ esc ∉ s
  | .escape sequence => IsSequence sequence ∧ ∀ p, p <+: sequence → IsSequence p → p = sequence
  | .unfinished sequence => sequence.head? = some esc ∧ ∀ p, p <+: sequence → ¬ IsSequence p

/-- One run may stand in front of another: what is unfinished stands at the end, and
neighbouring texts would be one. -/
def Run.Meets : Run → Run → Prop
  | .unfinished _, _ => False
  | .text _, .text _ => False
  | _, _ => True

/-- A token that is read alone makes or extends a run that fits. -/
theorem fits_push (ht : tokens t.text = [t]) (hrs : ∀ r ∈ rs, r.Fits) :
    ∀ r ∈ Run.push t rs, r.Fits := by
  rcases t with c | sequence | sequence
  · have hc : c ≠ esc := tokens_eq_char_iff.mp ht
    have hsingle : (Run.text [c]).Fits :=
      ⟨List.cons_ne_nil c [], fun hmem => hc (List.mem_singleton.mp hmem).symm⟩
    rcases rs with _ | ⟨s | other | other, rs⟩
    · exact List.forall_mem_singleton.mpr hsingle
    · rw [List.forall_mem_cons] at hrs
      refine List.forall_mem_cons.mpr ⟨⟨List.cons_ne_nil c s, ?_⟩, hrs.2⟩
      rw [List.mem_cons, not_or]
      exact ⟨hc.symm, hrs.1.2⟩
    · exact List.forall_mem_cons.mpr ⟨hsingle, hrs⟩
    · exact List.forall_mem_cons.mpr ⟨hsingle, hrs⟩
  · exact List.forall_mem_cons.mpr ⟨tokens_eq_escape_iff.mp ht, hrs⟩
  · exact List.forall_mem_cons.mpr ⟨tokens_eq_unfinished_iff.mp ht, hrs⟩

theorem fits_foldr_push (h : ∀ t ∈ ts, tokens t.text = [t]) :
    ∀ r ∈ ts.foldr Run.push [], r.Fits := by
  induction ts with
  | nil => exact fun r hr => absurd hr List.not_mem_nil
  | cons t ts ih =>
    rw [List.forall_mem_cons] at h
    exact fits_push h.1 (ih h.2)

theorem isChain_push (ht : t.isUnfinished = false) (hrs : rs.IsChain Run.Meets) :
    (Run.push t rs).IsChain Run.Meets := by
  rcases t with c | sequence | sequence
  · rcases rs with _ | ⟨s | other | other, rs⟩
    · exact List.IsChain.singleton _
    · rw [List.isChain_cons] at hrs
      refine List.isChain_cons.mpr ⟨fun next hnext => ?_, hrs.2⟩
      -- the text got longer, but still it must not stand in front of another one
      have hmeets := hrs.1 next hnext
      rcases next with _ | _ | _
      · exact hmeets
      all_goals trivial
    · exact List.isChain_cons_cons.mpr ⟨trivial, hrs⟩
    · exact List.isChain_cons_cons.mpr ⟨trivial, hrs⟩
  · exact List.isChain_cons.mpr ⟨fun _ _ => trivial, hrs⟩
  · exact nomatch ht

theorem isChain_foldr_push (hts : ∀ t ∈ ts, t.isUnfinished = false)
    (hrs : rs.IsChain Run.Meets) : (ts.foldr Run.push rs).IsChain Run.Meets := by
  induction ts with
  | nil => exact hrs
  | cons t ts ih =>
    rw [List.forall_mem_cons] at hts
    exact isChain_push hts.1 (ih hts.2)

/-- Only the last token may be unfinished, so the runs meet. -/
theorem isChain_runs (s : Text) : (runs s).IsChain Run.Meets := by
  rw [runs, tokens_eq_readAll, List.foldr_append]
  refine isChain_foldr_push (fun _ => isUnfinished_eq_false_of_mem_readAll) ?_
  rcases (Scan.readAll none s).2 with _ | ⟨opening, seen⟩
  · exact List.IsChain.nil
  · exact List.IsChain.singleton _

/-! ## There are no other runs -/

theorem tokens_spelling (h : r.Fits) : tokens r.spelling = r.tokens := by
  cases r with
  | text s => exact tokens_of_visible h.2
  | escape sequence => exact tokens_eq_escape_iff.mpr h
  | unfinished sequence => exact tokens_eq_unfinished_iff.mpr h

theorem whole_spelling (h : r.Fits) (hr : ∀ sequence, r ≠ .unfinished sequence) :
    Whole r.spelling := by
  rw [whole_iff_tokens, tokens_spelling h]
  intro t ht
  cases r with
  | text s =>
    obtain ⟨c, -, rfl⟩ := List.mem_map.mp ht
    rfl
  | escape sequence =>
    rw [List.mem_singleton.mp ht]
    rfl
  | unfinished sequence => exact absurd rfl (hr sequence)

/-- Runs that fit and meet are read as the tokens that they are put together from: all but
the last of them are whole, so each is read as if it stood alone. -/
theorem tokens_flatMap_spelling (hfits : ∀ r ∈ rs, r.Fits) (hchain : rs.IsChain Run.Meets) :
    tokens (rs.flatMap Run.spelling) = rs.flatMap Run.tokens := by
  induction rs with
  | nil => rfl
  | cons r rs ih =>
    rw [List.forall_mem_cons] at hfits
    rw [List.isChain_cons] at hchain
    rw [List.flatMap_cons, List.flatMap_cons]
    by_cases hr : ∃ sequence, r = .unfinished sequence
    · -- nothing may stand behind it, so it need not be whole
      obtain ⟨sequence, rfl⟩ := hr
      have hlast : rs = [] := by
        rw [← List.head?_eq_none_iff, Option.eq_none_iff_forall_not_mem]
        exact fun next hnext => hchain.1 next hnext
      rw [hlast, List.flatMap_nil, List.flatMap_nil, List.append_nil, List.append_nil]
      exact tokens_spelling hfits.1
    · have hwhole : Whole r.spelling :=
        whole_spelling hfits.1 fun sequence heq => hr ⟨sequence, heq⟩
      rw [hwhole.tokens_append, tokens_spelling hfits.1, ih hfits.2 hchain.2]

/-- Characters are put together to one text in front of anything but a text. -/
theorem foldr_push_chars {s : Text} (hs : s ≠ []) (hrs : ∀ next, .text next ∉ rs.head?) :
    (s.map Token.char).foldr Run.push rs = .text s :: rs := by
  induction s with
  | nil => exact absurd rfl hs
  | cons c s ih =>
    rw [List.map_cons, List.foldr_cons]
    rcases s with _ | ⟨d, s⟩
    · rcases rs with _ | ⟨next | sequence | sequence, rs⟩
      · rfl
      · exact absurd rfl (hrs next)
      all_goals rfl
    · rw [ih (List.cons_ne_nil d s)]
      rfl

/-- The tokens of a run are put together to that run again. -/
theorem foldr_push_tokens (hr : r.Fits) (hmeets : ∀ next ∈ rs.head?, r.Meets next) :
    r.tokens.foldr Run.push rs = r :: rs := by
  cases r with
  | text s => exact foldr_push_chars hr.1 fun next hnext => hmeets _ hnext
  | escape | unfinished => rfl

theorem foldr_push_flatMap_tokens (hfits : ∀ r ∈ rs, r.Fits) (hchain : rs.IsChain Run.Meets) :
    (rs.flatMap Run.tokens).foldr Run.push [] = rs := by
  induction rs with
  | nil => rfl
  | cons r rs ih =>
    rw [List.forall_mem_cons] at hfits
    rw [List.isChain_cons] at hchain
    rw [List.flatMap_cons, List.foldr_append, ih hfits.2 hchain.2]
    exact foldr_push_tokens hfits.1 hchain.1

/-- **The runs of a text are the only ones that spell it, fit and meet.** -/
theorem runs_eq_iff : runs s = rs ↔
    rs.flatMap Run.spelling = s ∧ (∀ r ∈ rs, r.Fits) ∧ rs.IsChain Run.Meets := by
  constructor
  · rintro rfl
    refine ⟨?_, fits_foldr_push fun _ => tokens_text_of_mem, isChain_runs s⟩
    rw [← spell_flatMap_tokens, flatMap_tokens_runs, spell_tokens]
  · rintro ⟨rfl, hfits, hchain⟩
    rw [runs, tokens_flatMap_spelling hfits hchain, foldr_push_flatMap_tokens hfits hchain]

/-! ## Texts that are put together -/

/-- What the runs of a text consist of, with visible text taken apart into characters. -/
def constituents (s : Text) : List Token := (runs s).flatMap Run.tokens

theorem constituents_append {a : Text} (h : Whole a) (b : Text) :
    constituents (a ++ b) = constituents a ++ constituents b := by
  simp only [constituents, flatMap_tokens_runs, h.tokens_append]

/-- **Runs lose nothing, nothing else could be meant by them, and they are the same in front
of any text and behind any that ends between sequences.**  The runs of a text are those that
spell it, are what their kinds say and could not be longer.  Behind a text without an
unfinished run everything is cut as if it stood alone, and so is the tail that stays
unfinished. -/
theorem runs_lossless_compositional :
    (∀ (s : Text) (rs : List Run), runs s = rs ↔
      rs.flatMap Run.spelling = s ∧ (∀ r ∈ rs, r.Fits) ∧ rs.IsChain Run.Meets) ∧
    ∀ a t : Text, Whole a →
      finished (constituents (a ++ t)) = finished (constituents a) ++ finished (constituents t) ∧
        (constituents (a ++ t)).filter Token.isUnfinished =
          (constituents t).filter Token.isUnfinished := by
  refine ⟨fun s rs => runs_eq_iff, fun a t ha => ?_⟩
  have hnone : (constituents a).filter Token.isUnfinished = [] := by
    rw [constituents, flatMap_tokens_runs, List.filter_eq_nil_iff]
    intro u hu
    rw [whole_iff_tokens.mp ha u hu]
    exact Bool.false_ne_true
  rw [constituents_append ha, finished, finished, finished, List.filter_append, List.filter_append,
    hnone, List.nil_append]
  exact ⟨rfl, rfl⟩

/-- A title with an ESC in it that does not end it, and a character behind it. -/
def titled : Text := [esc, ']', '0', ';', 'a', esc, esc, '\\', 'b']

/-- A control sequence that an ESC does not interrupt, and a title without an end. -/
def interrupted : Text := ['c', esc, '[', '3', esc, 'm', esc, ']', '1', esc]

theorem runs_lossless_compositional_titled :
    Whole titled ∧
      finished (constituents (titled ++ interrupted)) =
        finished (constituents titled) ++ finished (constituents interrupted) ∧
      (constituents (titled ++ interrupted)).filter Token.isUnfinished =
        [.unfinished [esc, ']', '1', esc]] :=
  have htitled : Whole titled := by decide
  have hjoined := runs_lossless_compositional.2 titled interrupted htitled
  ⟨htitled, hjoined.1, hjoined.2.trans (by decide)⟩

end Styled
end TerminalDialogs
