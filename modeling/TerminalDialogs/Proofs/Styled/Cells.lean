import TerminalDialogs.Proofs.Styled.Scan

/-!
# Styled cells

What a line looks like is the list of its visible characters, each with the
style that is in force where it stands.  What a style sequence does to the style
is left open: a *styling* is any start state together with any effect of style
sequences, as long as the two sequences that reset lead back to the start from
everywhere.  Sequences of other kinds leave the style alone.

`Styling.cells` reads a line run by run, since runs are how a line is shown.  The
proofs read it token by token, which is the same (`cells_eq_cellsOf`).
-/

namespace TerminalDialogs
namespace Styled

universe u

/-- A meaning of style sequences. -/
structure Styling (Q : Type u) where
  /-- The style at the start of a line. -/
  start : Q
  /-- The style after a style sequence. -/
  apply : Q → Text → Q
  apply_reset : ∀ q, apply q reset = start
  apply_bareReset : ∀ q, apply q [esc, '[', 'm'] = start

namespace Styling

variable {Q : Type u} (S : Styling Q)

/-- The style after an escape sequence of any kind. -/
def after (q : Q) (sequence : Text) : Q := if isStyle sequence then S.apply q sequence else q

/-- The cells of runs that are read in a given style. -/
def cellsAlong : Q → List Run → List (Char × Q)
  | _, [] => []
  | q, .text s :: runs => s.map (fun c => (c, q)) ++ cellsAlong q runs
  | q, .escape sequence :: runs => cellsAlong (S.after q sequence) runs
  | q, .unfinished _ :: runs => cellsAlong q runs

/-- The cells of a line: its visible characters, each with its style. -/
def cells (s : Text) : List (Char × Q) := S.cellsAlong S.start (runs s)

/-- The style after a token. -/
def step (q : Q) : Token → Q
  | .escape sequence => S.after q sequence
  | _ => q

/-- The style after tokens. -/
def steps (q : Q) (ts : List Token) : Q := ts.foldl S.step q

/-- The cells of tokens that are read in a given style. -/
def cellsOf (q : Q) : List Token → List (Char × Q)
  | [] => []
  | t :: ts => (t.visible?.map fun c => (c, q)).toList ++ cellsOf (S.step q t) ts

@[simp] theorem steps_nil (q : Q) : S.steps q [] = q := rfl

@[simp] theorem steps_cons (q : Q) (t : Token) (ts : List Token) :
    S.steps q (t :: ts) = S.steps (S.step q t) ts := rfl

@[simp] theorem cellsOf_nil (q : Q) : S.cellsOf q [] = [] := rfl

@[simp] theorem cellsOf_char (q : Q) (c : Char) (ts : List Token) :
    S.cellsOf q (.char c :: ts) = (c, q) :: S.cellsOf q ts := rfl

@[simp] theorem cellsOf_escape (q : Q) (sequence : Text) (ts : List Token) :
    S.cellsOf q (.escape sequence :: ts) = S.cellsOf (S.after q sequence) ts := rfl

@[simp] theorem cellsOf_unfinished (q : Q) (sequence : Text) (ts : List Token) :
    S.cellsOf q (.unfinished sequence :: ts) = S.cellsOf q ts := rfl

theorem steps_append (q : Q) (ts us : List Token) :
    S.steps q (ts ++ us) = S.steps (S.steps q ts) us :=
  List.foldl_append

theorem cellsOf_append (q : Q) (ts us : List Token) :
    S.cellsOf q (ts ++ us) = S.cellsOf q ts ++ S.cellsOf (S.steps q ts) us := by
  induction ts generalizing q with
  | nil => rfl
  | cons t ts ih => rw [List.cons_append, cellsOf, ih, cellsOf, steps_cons, List.append_assoc]

/-! ## Runs and tokens -/

theorem cellsAlong_push (q : Q) (t : Token) (runs : List Run) :
    S.cellsAlong q (Run.push t runs) =
      (t.visible?.map fun c => (c, q)).toList ++ S.cellsAlong (S.step q t) runs := by
  rcases t with c | sequence | sequence
  · rcases runs with _ | ⟨s | sequence | sequence, runs⟩
    · rfl
    · rfl
    · rfl
    · rfl
  · rfl
  · rfl

theorem cellsAlong_foldr_push (q : Q) (ts : List Token) :
    S.cellsAlong q (ts.foldr Run.push []) = S.cellsOf q ts := by
  induction ts generalizing q with
  | nil => rfl
  | cons t ts ih => rw [List.foldr_cons, cellsAlong_push, ih, cellsOf]

/-- Reading runs is reading tokens. -/
theorem cells_eq_cellsOf (s : Text) : S.cells s = S.cellsOf S.start (tokens s) :=
  S.cellsAlong_foldr_push S.start (tokens s)

end Styling

/-- The runs cut off by the end are the tokens cut off by the end. -/
theorem unfinished_mem_foldr_push {sequence : Text} {ts : List Token} :
    Run.unfinished sequence ∈ ts.foldr Run.push [] ↔ Token.unfinished sequence ∈ ts := by
  induction ts with
  | nil => simp
  | cons t ts ih =>
    rw [List.foldr_cons, List.mem_cons, ← ih]
    rcases t with c | other | other
    · rcases ts.foldr Run.push [] with _ | ⟨s | other | other, runs⟩ <;> simp [Run.push]
    · simp [Run.push]
    · simp [Run.push]

/-- A text that complete tokens spell ends between sequences. -/
theorem unfinished_notMem_runs_spell {ts : List Token} (h : ∀ t ∈ ts, t.Complete)
    (sequence : Text) : Run.unfinished sequence ∉ runs (spell ts) := by
  rw [runs, unfinished_mem_foldr_push, tokens_spell h]
  intro hmem
  exact absurd (h _ hmem).isUnfinished_eq_false (by simp [Token.isUnfinished])

/-- The cells of a text that complete tokens spell. -/
theorem Styling.cells_spell {Q : Type u} (S : Styling Q) {ts : List Token}
    (h : ∀ t ∈ ts, t.Complete) : S.cells (spell ts) = S.cellsOf S.start ts := by
  rw [S.cells_eq_cellsOf, tokens_spell h]

end Styled
end TerminalDialogs
