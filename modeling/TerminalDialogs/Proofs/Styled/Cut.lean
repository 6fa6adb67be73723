import TerminalDialogs.Proofs.Styled.Cells
import TerminalDialogs.Styled.Cut

/-!
# Cutting loses neither text nor style

The two parts of a line that is cut after `n` visible characters hold its first
`n` cells and the others (`cells_take_skip`), whatever style sequences mean.

Both parts are spelled by complete tokens, so it is enough to compare tokens.
The first part keeps the tokens up to its last character, and with them
everything that the styles of its characters depend on.  The second part leaves
tokens out, and its first characters depend on what was left out: the sequences
written in front of it have to lead from the start style to the style at the
cut.  That is the invariant `Carries`; a reset is where it may forget.
-/

namespace TerminalDialogs
namespace Styled

universe u

/-! ## The first part -/

/-- The tokens up to the `n`-th visible character. -/
def keep : Nat → List Token → List Token
  | 0, _ => []
  | _ + 1, [] => []
  | n + 1, .char c :: ts => .char c :: keep n ts
  | n + 1, .escape sequence :: ts => .escape sequence :: keep (n + 1) ts
  | n + 1, .unfinished _ :: ts => keep (n + 1) ts

theorem takeTokens_eq_spell_keep (n : Nat) (ts : List Token) :
    takeTokens n ts = spell (keep n ts) := by
  fun_induction takeTokens n ts with
  | case1 ts => rw [keep]; rfl
  | case2 n => rfl
  | case3 n c ts ih => rw [keep, spell_cons, ih]; rfl
  | case4 n sequence ts ih => rw [keep, spell_cons, ih]; rfl
  | case5 n sequence ts ih => rw [keep, ih]

theorem take_eq_spell_keep (n : Nat) (s : Text) : take n s = spell (keep n (tokens s)) :=
  takeTokens_eq_spell_keep n (tokens s)

theorem mem_of_mem_keep {n : Nat} {ts : List Token} {t : Token} (ht : t ∈ keep n ts) :
    t ∈ ts ∧ t.isUnfinished = false := by
  fun_induction keep n ts with
  | case1 ts => exact absurd ht List.not_mem_nil
  | case2 n => exact absurd ht List.not_mem_nil
  | case3 n c ts ih =>
    rcases List.mem_cons.mp ht with rfl | ht
    · exact ⟨List.mem_cons_self, rfl⟩
    · exact ⟨List.mem_cons_of_mem _ (ih ht).1, (ih ht).2⟩
  | case4 n sequence ts ih =>
    rcases List.mem_cons.mp ht with rfl | ht
    · exact ⟨List.mem_cons_self, rfl⟩
    · exact ⟨List.mem_cons_of_mem _ (ih ht).1, (ih ht).2⟩
  | case5 n sequence ts ih => exact ⟨List.mem_cons_of_mem _ (ih ht).1, (ih ht).2⟩

theorem complete_of_mem_keep {n : Nat} {s : Text} {t : Token} (ht : t ∈ keep n (tokens s)) :
    t.Complete :=
  complete_of_mem_tokens (mem_of_mem_keep ht).1 (mem_of_mem_keep ht).2

theorem Styling.cellsOf_keep {Q : Type u} (S : Styling Q) (q : Q) (n : Nat) (ts : List Token) :
    S.cellsOf q (keep n ts) = (S.cellsOf q ts).take n := by
  fun_induction keep n ts generalizing q with
  | case1 ts => rw [List.take_zero, cellsOf_nil]
  | case2 n => rw [cellsOf_nil, List.take_nil]
  | case3 n c ts ih => rw [cellsOf_char, ih, cellsOf_char, List.take_succ_cons]
  | case4 n sequence ts ih => rw [cellsOf_escape, ih, cellsOf_escape]
  | case5 n sequence ts ih => rw [ih, cellsOf_unfinished]

/-! ## The second part -/

theorem Styling.cellsOf_finished {Q : Type u} (S : Styling Q) (q : Q) (ts : List Token) :
    S.cellsOf q (finished ts) = S.cellsOf q ts := by
  induction ts generalizing q with
  | nil => rfl
  | cons t ts ih =>
    rcases t with c | sequence | sequence
    · exact congrArg ((c, q) :: ·) (ih q)
    · exact ih _
    · exact ih q

theorem mem_finished {ts : List Token} {t : Token} :
    t ∈ finished ts ↔ t ∈ ts ∧ t.isUnfinished = false := by
  simp [finished]

/-- Without a visible character there is no cell. -/
theorem Styling.cellsOf_eq_nil {Q : Type u} (S : Styling Q) (q : Q) {ts : List Token}
    (h : (ts.any fun t => t.visible?.isSome) = false) : S.cellsOf q ts = [] := by
  induction ts generalizing q with
  | nil => rfl
  | cons t ts ih =>
    rw [List.any_cons, Bool.or_eq_false_iff] at h
    rw [cellsOf, Option.not_isSome_iff_eq_none.mp (Bool.eq_false_iff.mp h.1), ih _ h.2]
    rfl

/-- A text of complete sequences that leads from the start style to style `q`
and shows nothing. -/
structure Carries {Q : Type u} (S : Styling Q) (q : Q) (carried : Text) (ts : List Token) :
    Prop where
  spelled : carried = spell ts
  complete : ∀ t ∈ ts, t.Complete
  hidden : S.cellsOf S.start ts = []
  leads : S.steps S.start ts = q

theorem Carries.nil {Q : Type u} (S : Styling Q) : Carries S S.start [] [] :=
  ⟨rfl, fun _ ht => absurd ht List.not_mem_nil, rfl, rfl⟩

/-- A reset leads to the start style. -/
theorem Styling.after_of_isReset {Q : Type u} (S : Styling Q) (q : Q) {sequence : Text}
    (hstyle : isStyle sequence = true) (hreset : isReset sequence = true) :
    S.after q sequence = S.start := by
  rw [Styling.after, if_pos hstyle]
  rw [isReset, Bool.or_eq_true, beq_iff_eq, beq_iff_eq] at hreset
  rcases hreset with rfl | rfl
  · exact S.apply_reset q
  · exact S.apply_bareReset q

/-- **Carrying one more sequence.**  A style sequence is written behind those
that are carried, a reset makes them void, and no other sequence matters. -/
theorem Carries.carry {Q : Type u} {S : Styling Q} {q : Q} {carried : Text} {ts : List Token}
    (h : Carries S q carried ts) {sequence : Text} (hseq : (Token.escape sequence).Complete) :
    ∃ us, Carries S (S.after q sequence) (Styled.carry carried sequence) us := by
  rw [Styled.carry]
  by_cases hstyle : isStyle sequence = true
  · rw [if_pos hstyle]
    by_cases hreset : isReset sequence = true
    · rw [if_pos hreset, S.after_of_isReset q hstyle hreset]
      exact ⟨[], Carries.nil S⟩
    · rw [if_neg hreset]
      refine ⟨ts ++ [.escape sequence], ?_, ?_, ?_, ?_⟩
      · rw [spell_append, ← h.spelled, spell_cons, spell_nil, List.append_nil]
        rfl
      · intro t ht
        rcases List.mem_append.mp ht with ht | ht
        · exact h.complete t ht
        · rw [List.mem_singleton.mp ht]
          exact hseq
      · rw [S.cellsOf_append, h.hidden]
        rfl
      · rw [S.steps_append, h.leads]
        rfl
  · rw [if_neg hstyle, Styling.after, if_neg hstyle]
    exact ⟨ts, h⟩

/-- What leaving out characters comes to: nothing is left to show, or tokens are
left that show the other cells behind sequences that lead to their style. -/
inductive Skipped {Q : Type u} (S : Styling Q) (cells : List (Char × Q)) (ts : List Token) :
    Option (Text × List Token) → Prop where
  | exhausted (hcells : cells = []) : Skipped S cells ts none
  | shown {q : Q} {carried : Text} {us rest : List Token} (hcarries : Carries S q carried us)
      (hcells : S.cellsOf q rest = cells) (hrest : ∀ t ∈ rest, t ∈ ts) :
      Skipped S cells ts (some (carried, rest))

theorem Skipped.cons {Q : Type u} {S : Styling Q} {cells : List (Char × Q)} {ts : List Token}
    {skipped : Option (Text × List Token)} (h : Skipped S cells ts skipped) (t : Token) :
    Skipped S cells (t :: ts) skipped := by
  cases h with
  | exhausted hcells => exact Skipped.exhausted hcells
  | shown hcarries hcells hrest =>
    exact Skipped.shown hcarries hcells fun u hu => List.mem_cons_of_mem t (hrest u hu)

theorem skipTokens_spec {Q : Type u} {S : Styling Q} (n : Nat) {q : Q} {carried : Text}
    {us : List Token} (h : Carries S q carried us) {ts : List Token}
    (hts : ∀ t ∈ ts, t.isUnfinished = false → t.Complete) :
    Skipped S ((S.cellsOf q ts).drop n) ts (skipTokens n carried ts) := by
  induction ts generalizing n q carried us with
  | nil =>
    cases n with
    | zero => exact Skipped.shown h rfl fun _ ht => ht
    | succ n => exact Skipped.exhausted rfl
  | cons t ts ih =>
    have hts' : ∀ u ∈ ts, u.isUnfinished = false → u.Complete :=
      fun u hu => hts u (List.mem_cons_of_mem t hu)
    cases n with
    | zero => exact Skipped.shown h rfl fun _ ht => ht
    | succ n =>
      rcases t with c | sequence | sequence
      · exact (ih n h hts').cons _
      · obtain ⟨vs, hvs⟩ := h.carry (hts _ List.mem_cons_self rfl)
        exact (ih (n + 1) hvs hts').cons _
      · exact (ih (n + 1) h hts').cons _

/-- The second part is spelled by complete tokens, which show the other cells. -/
theorem skip_eq_spell {Q : Type u} (S : Styling Q) (n : Nat) (s : Text) :
    ∃ ts, skip n s = spell ts ∧ (∀ t ∈ ts, t.Complete) ∧
      S.cellsOf S.start ts = (S.cells s).drop n := by
  have hcomplete : ∀ t ∈ tokens s, t.isUnfinished = false → t.Complete :=
    fun _ ht => complete_of_mem_tokens ht
  have hskipped := skipTokens_spec n (Carries.nil S) hcomplete
  rw [S.cells_eq_cellsOf, skip]
  generalize skipTokens n [] (tokens s) = skipped at hskipped
  cases hskipped with
  | exhausted hcells => exact ⟨[], rfl, fun _ ht => absurd ht List.not_mem_nil, hcells.symm⟩
  | @shown q carried us rest hcarries hcells hrest =>
    have hfin : ∀ t ∈ finished rest, t.Complete := fun t ht =>
      hcomplete t (hrest t (mem_finished.mp ht).1) (mem_finished.mp ht).2
    rw [← hcells]
    by_cases hany : (rest.any fun t => t.visible?.isSome) = true
    · refine ⟨us ++ finished rest, ?_, ?_, ?_⟩
      · dsimp only
        rw [if_pos hany, hcarries.spelled, spell_append]
      · intro t ht
        rcases List.mem_append.mp ht with ht | ht
        · exact hcarries.complete t ht
        · exact hfin t ht
      · rw [S.cellsOf_append, hcarries.hidden, hcarries.leads, S.cellsOf_finished,
          List.nil_append]
    · have hnone := Bool.eq_false_iff.mpr hany
      refine ⟨finished rest, ?_, hfin, ?_⟩
      · dsimp only
        rw [if_neg hany]
      · rw [S.cellsOf_finished, S.cellsOf_eq_nil _ hnone, S.cellsOf_eq_nil _ hnone]

/-- **Cutting loses neither text nor style.**  The two parts of a line that is
cut after `n` visible characters show its first `n` cells and the others, under
every meaning of style sequences, and neither part ends inside a sequence. -/
theorem cells_take_skip {Q : Type u} (S : Styling Q) (n : Nat) (s : Text) :
    S.cells (take n s) = (S.cells s).take n ∧ S.cells (skip n s) = (S.cells s).drop n ∧
      ∀ sequence, Run.unfinished sequence ∉ runs (take n s) ∧
        Run.unfinished sequence ∉ runs (skip n s) := by
  have hkeep : ∀ t ∈ keep n (tokens s), t.Complete := fun _ ht => complete_of_mem_keep ht
  obtain ⟨ts, hskip, hts, hcells⟩ := skip_eq_spell S n s
  rw [take_eq_spell_keep, hskip]
  refine ⟨?_, ?_, fun sequence => ⟨?_, ?_⟩⟩
  · rw [S.cells_spell hkeep, S.cellsOf_keep, S.cells_eq_cellsOf]
  · rw [S.cells_spell hts, hcells]
  · exact unfinished_notMem_runs_spell hkeep sequence
  · exact unfinished_notMem_runs_spell hts sequence

end Styled
end TerminalDialogs
