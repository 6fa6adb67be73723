import TerminalDialogs.Proofs.Styled.Whole
import TerminalDialogs.Styled.Background

/-!
# Style sequences

A control sequence of parameters with final `m` is one token, wherever it stands
between others (`scan_controlSequence`), so it is whole and takes no room.
-/

namespace TerminalDialogs
namespace Styled

/-! ## Reading on -/

theorem scan_next {opening opening' : Opening} {d : Char} (h : opening.next d = some opening')
    (seen s : Text) :
    scan (some (opening, seen)) (d :: s) = scan (some (opening', d :: seen)) s := by
  rw [scan, h]

theorem scan_done {opening : Opening} {d : Char} (h : opening.next d = none) (seen s : Text) :
    scan (some (opening, seen)) (d :: s) = .escape (d :: seen).reverse :: scan none s := by
  rw [scan, h]

theorem Opening.command_next {afterEsc : Bool} {d : Char}
    (h : ¬ (d = bel ∨ (afterEsc = true ∧ d = '\\'))) :
    Opening.next (.command afterEsc) d = some (.command (d = esc)) :=
  if_neg h

theorem Opening.command_ends {afterEsc : Bool} {d : Char}
    (h : d = bel ∨ (afterEsc = true ∧ d = '\\')) : Opening.next (.command afterEsc) d = none :=
  if_pos h

theorem Opening.control_next {d : Char} (h : isFinal d = false) :
    Opening.next .control d = some .control :=
  if_neg (Bool.eq_false_iff.mp h)

theorem Opening.control_ends {d : Char} (h : isFinal d = true) : Opening.next .control d = none :=
  if_pos h

/-- A command goes on as long as no character can end it. -/
theorem scan_command {w : Text} (h : ∀ d ∈ w, d ≠ bel ∧ d ≠ '\\') (afterEsc : Bool)
    (seen s : Text) : ∃ afterEsc',
      scan (some (.command afterEsc, seen)) (w ++ s) =
        scan (some (.command afterEsc', w.reverse ++ seen)) s := by
  induction w generalizing afterEsc seen with
  | nil => exact ⟨afterEsc, rfl⟩
  | cons d w ih =>
    obtain ⟨hbel, hslash⟩ := h d List.mem_cons_self
    have hnext : Opening.next (.command afterEsc) d = some (.command (d = esc)) :=
      Opening.command_next fun hd => hd.elim hbel fun hd => hslash hd.2
    have hw : ∀ e ∈ w, e ≠ bel ∧ e ≠ '\\' := fun e he => h e (List.mem_cons_of_mem d he)
    obtain ⟨afterEsc', hscan⟩ := ih hw (d = esc) (d :: seen)
    refine ⟨afterEsc', ?_⟩
    rw [List.cons_append, scan_next hnext, hscan, List.reverse_cons, List.append_assoc]
    rfl

/-! ## Parameters -/

theorem isParameter_of_isDigit {c : Char} (h : c.isDigit = true) : isParameter c = true := by
  rw [isParameter, Bool.or_eq_true]
  exact Or.inl h

theorem all_isParameter_ofNat (n : Nat) : (Text.ofNat n).all isParameter = true :=
  List.all_eq_true.mpr fun _ hd => isParameter_of_isDigit (Text.isDigit_of_mem_ofNat hd)

theorem isFinal_of_isParameter {d : Char} (h : isParameter d = true) : isFinal d = false := by
  rw [isParameter, Bool.or_eq_true, Bool.and_eq_true, decide_eq_true_eq, decide_eq_true_eq,
    beq_iff_eq] at h
  rw [isFinal, Bool.and_eq_false_iff, decide_eq_false_iff_not]
  refine Or.inl fun hat => ?_
  rcases h with ⟨-, hnine⟩ | rfl
  · exact absurd (Char.le_trans hat hnine) (by decide)
  · exact absurd hat (by decide)

theorem isParameter_ne {d e : Char} (hd : isParameter d = true) (he : isParameter e = false) :
    d ≠ e := by
  rintro rfl
  exact Bool.false_ne_true (he.symm.trans hd)

/-! ## Sequences -/

/-- The control sequence with a body and a final character. -/
def controlSequence (body : Text) (final : Char) : Text := esc :: '[' :: body ++ [final]

theorem isStyle_controlSequence (body : Text) (final : Char) :
    isStyle (controlSequence body final) = (final == 'm') := by
  rw [isStyle, controlSequence, List.getLast?_concat]
  rfl

/-- A style sequence is a token of its own. -/
theorem scan_controlSequence {parameters : Text} (h : parameters.all isParameter = true)
    (s : Text) : scan none (controlSequence parameters 'm' ++ s) =
      .escape (controlSequence parameters 'm') :: scan none s := by
  have hbody (seen : Text) : scan (some (.control, seen)) (parameters ++ 'm' :: s) =
      .escape (seen.reverse ++ parameters ++ ['m']) :: scan none s := by
    induction parameters generalizing seen with
    | nil =>
      rw [List.append_nil]
      exact (scan_done (by decide) seen s).trans (by rw [List.reverse_cons])
    | cons d parameters ih =>
      rw [List.all_cons, Bool.and_eq_true] at h
      have hd : Opening.next .control d = some .control :=
        Opening.control_next (isFinal_of_isParameter h.1)
      rw [List.cons_append, scan_next hd, ih h.2, List.reverse_cons, List.append_assoc,
        List.append_assoc, List.append_assoc]
      rfl
  have hopen : scan none (controlSequence parameters 'm' ++ s) =
      scan (some (.control, ['[', esc])) (parameters ++ 'm' :: s) := by
    rw [controlSequence, List.append_assoc]
    rfl
  rw [hopen, hbody]
  rfl

theorem tokens_controlSequence {parameters : Text} (h : parameters.all isParameter = true) :
    tokens (controlSequence parameters 'm') = [.escape (controlSequence parameters 'm')] := by
  have hscan := scan_controlSequence h []
  rwa [List.append_nil] at hscan

theorem whole_controlSequence {parameters : Text} (h : parameters.all isParameter = true) :
    Whole (controlSequence parameters 'm') := by
  rw [whole_iff_tokens, tokens_controlSequence h]
  intro t ht
  rw [List.mem_singleton.mp ht]
  rfl

theorem strip_controlSequence {parameters : Text} (h : parameters.all isParameter = true) :
    strip (controlSequence parameters 'm') = [] := by
  rw [strip, tokens_controlSequence h]
  rfl

/-- Style sequences are written with parameters and with the characters of a
reset. -/
theorem notMem_controlSequence {c : Char} (hreset : c ∉ reset) (hc : isParameter c = false)
    {parameters : Text} (h : parameters.all isParameter = true) :
    c ∉ controlSequence parameters 'm' := by
  intro hmem
  rw [controlSequence, List.mem_append, List.mem_cons, List.mem_cons, List.mem_singleton] at hmem
  rcases hmem with (rfl | rfl | hbody) | rfl
  · exact hreset (by decide)
  · exact hreset (by decide)
  · exact absurd (List.all_eq_true.mp h c hbody) (Bool.eq_false_iff.mp hc)
  · exact hreset (by decide)

end Styled
end TerminalDialogs
