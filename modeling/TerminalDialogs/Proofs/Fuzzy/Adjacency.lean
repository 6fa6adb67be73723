import TerminalDialogs.Proofs.Fuzzy.Embedding

/-!
# Adjacent characters beat gaps

An exact score is a sum over the positions of a match: each character adds something that
depends on its place, on the place of the one before it and on the length of the run that it
belongs to (`score_search`).  So two matches can be compared character by character, from the
first one on, without looking at the search again.

Take a match without gaps and any other match of the same query that starts at the same
position, and either both or neither at the start of a word.  Up to its first gap the other one
gets the same bonuses, since a character behind another one starts a word or not by what that
other one is.  At a gap it gets at best the bonus for the start of a word, which is smaller than
the smallest bonus for a run.  Behind a gap its positions are later and its runs shorter, and so
nothing that follows makes up for it (`tally_compare`).
-/

namespace TerminalDialogs
namespace Fuzzy

/-! ## What a character adds -/

/-- The character in front of a position. -/
def charBefore (text : Text) : Nat → Option Char
  | 0 => none
  | i + 1 => text[i]?

/-- Whether a word starts at a position of a text. -/
def startsWord (text : Text) (i : Nat) : Bool := ((charBefore text i).map isBoundary).getD true

/-- The exact bonus for the start of a word. -/
def wordBonus (text : Text) (i : Nat) : Int := if startsWord text i then -40 else 0

/-- The search in front of a position of a text. -/
def Search.before (text : Text) (last : Option Nat) (run i : Nat) : Search :=
  { position := i, previous := charBefore text i, last, run }

/-- What the next character adds to an exact score if it is found. -/
def Search.cost (s : Search) : Int :=
  10 * s.step.2.getD 0 + (if s.atBoundary then -40 else 0) + s.position

variable {text text' query : Text} {s : Search} {c : Char} {m m' : Match} {last : Option Nat}
  {run run' i j : Nat}

theorem Search.score_found (s : Search) (c : Char) :
    (s.found .exact c).score = s.score + s.cost := by
  show s.scored .exact = _
  rw [scored, cost]
  simp only [Arithmetic.exact, Int.ofNat_eq_natCast]
  rcases s.step.2 with _ | change
  · simp only [Option.getD_none]
    split <;> omega
  · simp only [Option.getD_some]
    split <;> omega

theorem Search.atBoundary_before (text : Text) (last : Option Nat) (run i : Nat) :
    (before text last run i).atBoundary = startsWord text i := by
  rw [atBoundary, before, startsWord]
  cases charBefore text i with
  | none => rfl
  | some c => rfl

theorem cost_first (text : Text) (run i : Nat) :
    (Search.before text none run i).cost = wordBonus text i + i := by
  rw [Search.cost, Search.atBoundary_before, wordBonus]
  simp [Search.before, Search.step]

theorem step_first (text : Text) (run i : Nat) :
    (Search.before text none run i).step = (0, none) := rfl

theorem step_adjacent (text : Text) (run i : Nat) :
    (Search.before text (some i) run (i + 1)).step = (run + 1, some (-5 * (run + 1 : Int))) := by
  simp [Search.before, Search.step]

theorem cost_adjacent (text : Text) (run i : Nat) :
    (Search.before text (some i) run (i + 1)).cost =
      -50 * (run + 1) + wordBonus text (i + 1) + (i + 1) := by
  rw [Search.cost, Search.atBoundary_before, step_adjacent, wordBonus, Option.getD_some]
  simp only [Search.before]
  push_cast
  ring

theorem step_gap (h : i + 1 < j) (text : Text) (run : Nat) :
    (Search.before text (some i) run j).step = (0, some (2 * ((j - i - 1 : Nat) : Int))) := by
  simp [Search.before, Search.step, h.ne]

theorem cost_gap (h : i + 1 < j) (text : Text) (run : Nat) :
    (Search.before text (some i) run j).cost =
      20 * ((j - i - 1 : Nat) : Int) + wordBonus text j + j := by
  rw [Search.cost, Search.atBoundary_before, step_gap h, wordBonus, Option.getD_some]
  simp only [Search.before]
  ring

/-! ## The score as a sum -/

/-- What characters at some positions add to an exact score. -/
def tally (text : Text) : Option Nat → Nat → List Nat → Int
  | _, _, [] => 0
  | last, run, i :: positions =>
      (Search.before text last run i).cost +
        tally text (some i) (Search.before text last run i).step.1 positions

/-- A search has the rest of a text in front of it. -/
structure Search.Stands (text : Text) (s : Search) (rest : Text) : Prop where
  rest_eq : text.drop s.position = rest
  previous_eq : s.previous = charBefore text s.position

namespace Search.Stands

variable {rest : Text}

/-- Behind the next character, whatever is made of it. -/
theorem next (h : s.Stands text (c :: rest)) {s' : Search}
    (hposition : s'.position = s.position + 1)
    (hprevious : s'.previous = some c) : s'.Stands text rest := by
  constructor
  · rw [hposition, ← List.drop_drop, h.rest_eq]
    rfl
  · have hchar : text[s.position]? = some c := by
      rw [← List.head?_drop, h.rest_eq]
      rfl
    rw [hposition, hprevious, charBefore, hchar]

/-- The search is the one in front of its position, but for the score. -/
theorem cost_eq (h : s.Stands text rest) :
    s.cost = (before text s.last s.run s.position).cost ∧
      s.step = (before text s.last s.run s.position).step := by
  rw [before, ← h.previous_eq]
  exact ⟨rfl, rfl⟩

end Search.Stands

/-- **The score of a match** is what its positions add to the score at the start. -/
theorem score_search {rest : Text} (h : s.Stands text rest)
    (hm : search .exact s query rest = some m) :
    m.score = s.score + tally text s.last s.run m.positions := by
  fun_induction search .exact s query rest generalizing m with
  | case1 s rest =>
    obtain rfl := Option.some.inj hm
    exact (Int.add_zero _).symm
  | case2 s q query => cases hm
  | case3 s query c rest ih =>
    obtain ⟨found, hfound, rfl⟩ := Option.map_eq_some_iff.mp hm
    obtain ⟨hcost, hstep⟩ := h.cost_eq
    have hrest := ih (h.next rfl rfl) hfound
    rw [Search.score_found] at hrest
    rw [tally, ← hcost, ← hstep, ← add_assoc]
    exact hrest
  | case4 s q query c rest hc ih => exact ih (h.next rfl rfl) hm

theorem score_subsequence (hm : subsequence .exact query text = some m) :
    m.score = tally (Text.fold text) none 0 m.positions := by
  have hstart : Search.Stands (Text.fold text) {} (Text.fold text) := ⟨rfl, rfl⟩
  rw [subsequence_eq_search] at hm
  exact (score_search hstart hm).trans (Int.zero_add _)

theorem embeds_subsequence {A : Arithmetic} (hm : subsequence A query text = some m) :
    Embeds (Text.fold query) (Text.fold text) m.positions := by
  have hfinds := finds_subsequence A query text
  rw [hm] at hfinds
  obtain ⟨positions, hpositions, hforemost⟩ := hfinds
  rw [hpositions.trans (List.map_id positions)]
  exact hforemost.embeds

/-! ## Runs and gaps -/

/-- Every position is right behind the one before it. -/
def Adjacent (positions : List Nat) : Prop := positions.IsChain fun i j => j = i + 1

instance (positions : List Nat) : Decidable (Adjacent positions) :=
  inferInstanceAs (Decidable (List.IsChain _ _))

theorem wordBonus_cases (text : Text) (i : Nat) :
    wordBonus text i = -40 ∨ wordBonus text i = 0 := by
  rw [wordBonus]
  split
  · exact Or.inl rfl
  · exact Or.inr rfl

/-- Behind equal characters a word starts in both texts or in neither. -/
theorem wordBonus_succ (h : text[i]? = text'[j]?) :
    wordBonus text (i + 1) = wordBonus text' (j + 1) := by
  rw [wordBonus, wordBonus, startsWord, startsWord, charBefore, charBefore, h]

/-- **Nothing makes up for a gap.**  From equal characters on, a match without gaps adds no more
than any other match of the same characters that stands at a later position and is in a shorter
run, and less than one with a gap. -/
theorem tally_compare {positions positions' : List Nat} (hchar : text[i]? = text'[j]?)
    (hlater : i ≤ j) (hshorter : run' ≤ run) (hadjacent : Adjacent (i :: positions))
    (hascending : (j :: positions').Pairwise (· < ·))
    (hletters : positions.map (text[·]?) = positions'.map (text'[·]?)) :
    tally text (some i) run positions ≤ tally text' (some j) run' positions' ∧
      (¬ Adjacent (j :: positions') →
        tally text (some i) run positions < tally text' (some j) run' positions') := by
  induction positions generalizing positions' i j run run' with
  | nil =>
    obtain rfl := List.map_eq_nil_iff.mp hletters.symm
    exact ⟨le_refl _, fun hgap => absurd (List.isChain_singleton j) hgap⟩
  | cons k positions ih =>
    obtain _ | ⟨l, positions'⟩ := positions'
    · cases hletters
    obtain ⟨rfl, hrest⟩ := List.isChain_cons_cons.mp hadjacent
    obtain ⟨hfirst, hrests⟩ := List.cons.inj hletters
    obtain ⟨hlt, hascends⟩ := List.pairwise_cons.mp hascending
    have hjl : j < l := hlt l List.mem_cons_self
    rw [tally, tally, cost_adjacent, step_adjacent]
    rcases Nat.lt_or_ge (j + 1) l with hgap | hnext
    · -- the other match has a gap here
      have hbehind := (ih hfirst (by omega) (Nat.zero_le (run + 1)) hrest hascends hrests).1
      have hbonus := wordBonus_cases text (i + 1)
      have hbonus' := wordBonus_cases text' l
      rw [cost_gap hgap, step_gap hgap]
      have hless : -50 * (run + 1 : Int) + wordBonus text (i + 1) + (i + 1) <
          20 * ((l - j - 1 : Nat) : Int) + wordBonus text' l + l := by omega
      exact ⟨by dsimp only; omega, fun _ => by dsimp only; omega⟩
    · obtain rfl : l = j + 1 := by omega
      have hbehind := ih hfirst (by omega) (Nat.add_le_add_right hshorter 1) hrest hascends hrests
      rw [cost_adjacent, step_adjacent, wordBonus_succ hchar]
      refine ⟨by have := hbehind.1; dsimp only; omega, fun hgap => ?_⟩
      have hgap' : ¬ Adjacent ((j + 1) :: positions') := fun hchain =>
        hgap (List.isChain_cons_cons.mpr ⟨rfl, hchain⟩)
      have := hbehind.2 hgap'
      dsimp only
      omega

/-- **Adjacent characters beat gaps.**  Of two texts in which a query is found from the same
position on, which starts a word in both or in neither, the one that has the characters of the
query next to each other scores better than one that has not, whatever words start in its gaps
and however short these are. -/
theorem adjacent_beats_gaps (hm : subsequence .exact query text = some m)
    (hm' : subsequence .exact query text' = some m')
    (hfirst : m.positions.head? = m'.positions.head?)
    (hword : ∀ i ∈ m.positions.head?,
      startsWord (Text.fold text) i = startsWord (Text.fold text') i)
    (hadjacent : Adjacent m.positions) (hgap : ¬ Adjacent m'.positions) :
    (m.score : ℚ) / 10 < (m'.score : ℚ) / 10 := by
  have hletters := (embeds_subsequence hm).letters.trans (embeds_subsequence hm').letters.symm
  have hascending := (embeds_subsequence hm').ascending
  have hscore := score_subsequence hm
  have hscore' := score_subsequence hm'
  generalize m.positions = positions at *
  generalize m'.positions = positions' at *
  obtain _ | ⟨i, positions⟩ := positions
  · -- nothing is sought, so there is no gap
    obtain rfl := List.map_eq_nil_iff.mp hletters.symm
    exact absurd List.isChain_nil hgap
  obtain _ | ⟨j, positions'⟩ := positions'
  · cases hletters
  obtain rfl : i = j := Option.some.inj hfirst
  obtain ⟨hchar, hrest⟩ := List.cons.inj hletters
  have hbonus : wordBonus (Text.fold text) i = wordBonus (Text.fold text') i := by
    rw [wordBonus, wordBonus, hword i rfl]
  have hless := (tally_compare hchar (Nat.le_refl i) (Nat.le_refl 0) hadjacent hascending
    hrest).2 hgap
  rw [tally, cost_first, step_first] at hscore hscore'
  have hlt : m.score < m'.score := by
    rw [hscore, hscore', hbonus]
    exact Int.add_lt_add_left hless _
  exact div_lt_div_of_pos_right (Int.cast_lt.mpr hlt) (by norm_num)

/-- Three words do not make up for two gaps of one character. -/
theorem adjacent_beats_gaps_words :
    subsequence .exact "abc".toList ".abc".toList = some ⟨-184, [1, 2, 3]⟩ ∧
      subsequence .exact "abc".toList ".a/b c".toList = some ⟨-71, [1, 3, 5]⟩ ∧
      ((-184 : Int) : ℚ) / 10 < ((-71 : Int) : ℚ) / 10 := by
  have hm : subsequence .exact "abc".toList ".abc".toList = some ⟨-184, [1, 2, 3]⟩ := by
    decide +kernel
  have hm' : subsequence .exact "abc".toList ".a/b c".toList = some ⟨-71, [1, 3, 5]⟩ := by
    decide +kernel
  have hword : ∀ i ∈ [1, 2, 3].head?, startsWord (Text.fold ".abc".toList) i =
      startsWord (Text.fold ".a/b c".toList) i := by
    intro i hi
    obtain rfl := Option.some.inj hi
    decide +kernel
  have hless := adjacent_beats_gaps hm hm' rfl hword (by decide) (by decide)
  exact ⟨hm, hm', hless⟩

end Fuzzy
end TerminalDialogs
