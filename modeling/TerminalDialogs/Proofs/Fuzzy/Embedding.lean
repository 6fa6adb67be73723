import Mathlib
import TerminalDialogs.Fuzzy

/-!
# Where a query is found

A query can stand in a text in many ways.  An *embedding* is one of them: a list of ascending
positions, one for each character of the query, where the text has that character.  The search
takes the first character that fits, every time, and never goes back.  Two things make this
right, and both are proved for all queries and texts (`found_first`).

Nothing is missed: a query that stands in a text in any way is found.  And what is found comes
first: no embedding has any of its characters at an earlier position (`Foremost`).

Both follow from the ways in which a query can stand in a text with one character more in front
(`embeds_cons_iff`): the character is passed, or it is the first of the query.  If it could be
taken but is passed, the rest of the query still stands behind it (`Embeds.tail`), so taking it
loses nothing.

A query that is looked for as one block is found where it stands first.
-/

namespace TerminalDialogs
namespace Fuzzy

/-! ## Embeddings -/

/-- Ascending positions, one for each character of a query, where a text has that character. -/
structure Embeds (query text : Text) (positions : List Nat) : Prop where
  ascending : positions.Pairwise (· < ·)
  letters : positions.map (fun i => text[i]?) = query.map some

/-- An embedding with every position as early as in any other. -/
structure Foremost (query text : Text) (positions : List Nat) : Prop where
  embeds : Embeds query text positions
  earliest : ∀ others, Embeds query text others → List.Forall₂ (· ≤ ·) positions others

variable {query text : Text} {c q : Char} {positions : List Nat}

@[simp] theorem embeds_nil_left : Embeds [] text positions ↔ positions = [] := by
  constructor
  · intro h
    exact List.map_eq_nil_iff.mp h.letters
  · rintro rfl
    exact ⟨List.Pairwise.nil, rfl⟩

theorem not_embeds_nil_right : ¬ Embeds (q :: query) [] positions := by
  intro h
  rcases positions with _ | ⟨i, positions⟩
  · exact nomatch h.letters
  · exact nomatch (List.cons.inj h.letters).1

/-- The rest of a query stands where it stood. -/
theorem Embeds.tail {i : Nat} (h : Embeds (q :: query) text (i :: positions)) :
    Embeds query text positions :=
  ⟨h.ascending.of_cons, (List.cons.inj h.letters).2⟩

theorem Embeds.exists_cons (h : Embeds (q :: query) text positions) :
    ∃ i others, positions = i :: others ∧ Embeds query text others := by
  rcases positions with _ | ⟨i, others⟩
  · exact nomatch h.letters
  · exact ⟨i, others, rfl, h.tail⟩

theorem pairwise_map_succ :
    (positions.map (· + 1)).Pairwise (· < ·) ↔ positions.Pairwise (· < ·) := by
  simp only [List.pairwise_map, Nat.add_lt_add_iff_right]

theorem embeds_map_succ :
    Embeds query (c :: text) (positions.map (· + 1)) ↔ Embeds query text positions := by
  have hletters : (positions.map (· + 1)).map (fun i => (c :: text)[i]?) =
      positions.map (fun i => text[i]?) := by
    simp only [List.map_map, Function.comp_def, List.getElem?_cons_succ]
  constructor
  · exact fun h => ⟨pairwise_map_succ.mp h.ascending, hletters ▸ h.letters⟩
  · exact fun h => ⟨pairwise_map_succ.mpr h.ascending, hletters.trans h.letters⟩

theorem embeds_zero_cons :
    Embeds (q :: query) (c :: text) (0 :: positions.map (· + 1)) ↔
      c = q ∧ Embeds query text positions := by
  constructor
  · intro h
    obtain ⟨hc, -⟩ := List.cons.inj h.letters
    exact ⟨Option.some.inj hc, embeds_map_succ.mp h.tail⟩
  · rintro ⟨rfl, h⟩
    have h' : Embeds query (c :: text) (positions.map (· + 1)) := embeds_map_succ.mpr h
    refine ⟨List.pairwise_cons.mpr ⟨fun i hi => ?_, h'.ascending⟩, ?_⟩
    · obtain ⟨j, -, rfl⟩ := List.mem_map.mp hi
      exact Nat.succ_pos j
    · rw [List.map_cons, h'.letters]
      rfl

/-- Positions none of which is zero. -/
theorem exists_map_succ (h : 0 ∉ positions) :
    ∃ others : List Nat, positions = others.map (· + 1) := by
  refine ⟨positions.map Nat.pred, ?_⟩
  rw [List.map_map]
  refine (List.map_id positions).symm.trans (List.map_congr_left fun i hi => ?_)
  exact (Nat.succ_pred (fun hzero => h (hzero ▸ hi))).symm

/-- **A character in front of a text** is passed, or it is the first of the query. -/
theorem embeds_cons_iff : Embeds query (c :: text) positions ↔
    (∃ others, positions = others.map (· + 1) ∧ Embeds query text others) ∨
      ∃ rest others, query = c :: rest ∧ positions = 0 :: others.map (· + 1) ∧
        Embeds rest text others := by
  constructor
  · intro h
    by_cases hzero : 0 ∈ positions
    · right
      rcases positions with _ | ⟨i, positions⟩
      · exact absurd hzero List.not_mem_nil
      rcases query with _ | ⟨q, query⟩
      · exact nomatch h.letters
      have hlt := (List.pairwise_cons.mp h.ascending).1
      -- The positions ascend, so a zero among them is the first.
      obtain rfl : i = 0 := by
        rcases List.mem_cons.mp hzero with hi | hi
        · exact hi.symm
        · exact absurd (hlt 0 hi) (Nat.not_lt_zero i)
      obtain ⟨others, rfl⟩ := exists_map_succ fun hi => Nat.lt_irrefl 0 (hlt 0 hi)
      obtain ⟨rfl, hrest⟩ := embeds_zero_cons.mp h
      exact ⟨query, others, rfl, rfl, hrest⟩
    · left
      obtain ⟨others, rfl⟩ := exists_map_succ hzero
      exact ⟨others, rfl, embeds_map_succ.mp h⟩
  · rintro (⟨others, rfl, h⟩ | ⟨rest, others, rfl, rfl, h⟩)
    · exact embeds_map_succ.mpr h
    · exact embeds_zero_cons.mpr ⟨rfl, h⟩

/-- A query stands in a text if and only if it is a part of it in the same order. -/
theorem exists_embeds_iff_sublist : (∃ positions, Embeds query text positions) ↔
    query.Sublist text := by
  constructor
  · rintro ⟨positions, h⟩
    induction text generalizing query positions with
    | nil =>
      rcases query with _ | ⟨q, query⟩
      · exact List.Sublist.slnil
      · exact absurd h not_embeds_nil_right
    | cons c text ih =>
      rcases embeds_cons_iff.mp h with ⟨others, -, h⟩ | ⟨rest, others, rfl, -, h⟩
      · exact (ih others h).cons c
      · exact (ih others h).cons_cons c
  · intro h
    induction h with
    | slnil => exact ⟨[], embeds_nil_left.mpr rfl⟩
    | cons c _ ih =>
      obtain ⟨positions, h⟩ := ih
      exact ⟨positions.map (· + 1), embeds_map_succ.mpr h⟩
    | cons_cons c _ ih =>
      obtain ⟨positions, h⟩ := ih
      exact ⟨0 :: positions.map (· + 1), embeds_zero_cons.mpr ⟨rfl, h⟩⟩

/-! ## The foremost embedding -/

theorem foremost_nil : Foremost [] text [] :=
  ⟨embeds_nil_left.mpr rfl, fun others h => by rw [embeds_nil_left.mp h]; exact .nil⟩

theorem forall₂_map_succ {others : List Nat} (h : List.Forall₂ (· ≤ ·) positions others) :
    List.Forall₂ (· ≤ ·) (positions.map (· + 1)) (others.map (· + 1)) := by
  rw [List.forall₂_map_left_iff, List.forall₂_map_right_iff]
  exact h.imp fun _ _ => Nat.succ_le_succ

/-- A character that can be taken is taken: embeddings that pass it come later. -/
theorem Foremost.take (h : Foremost query text positions) :
    Foremost (c :: query) (c :: text) (0 :: positions.map (· + 1)) := by
  refine ⟨embeds_zero_cons.mpr ⟨rfl, h.embeds⟩, fun others hothers => ?_⟩
  rcases embeds_cons_iff.mp hothers with ⟨others, rfl, hpassed⟩ | ⟨rest, others, heq, rfl, hrest⟩
  · obtain ⟨i, others, rfl, htail⟩ := hpassed.exists_cons
    exact .cons (Nat.zero_le _) (forall₂_map_succ (h.earliest others htail))
  · obtain ⟨-, rfl⟩ := List.cons.inj heq
    exact .cons (Nat.le_refl 0) (forall₂_map_succ (h.earliest others hrest))

/-- A character that does not fit is passed. -/
theorem Foremost.pass (h : Foremost (q :: query) text positions) (hc : c ≠ q) :
    Foremost (q :: query) (c :: text) (positions.map (· + 1)) := by
  refine ⟨embeds_map_succ.mpr h.embeds, fun others hothers => ?_⟩
  rcases embeds_cons_iff.mp hothers with ⟨others, rfl, hpassed⟩ | ⟨rest, others, heq, -, -⟩
  · exact forall₂_map_succ (h.earliest others hpassed)
  · exact absurd (List.cons.inj heq).1.symm hc

/-! ## The search -/

/-- What a search from some position on has to yield. -/
def Finds (query text : Text) (start : Nat) : Option Match → Prop
  | none => ∀ positions, ¬ Embeds query text positions
  | some m => ∃ positions, m.positions = positions.map (· + start) ∧
      Foremost query text positions

theorem map_add_succ (positions : List Nat) (start : Nat) :
    positions.map (· + (start + 1)) = (positions.map (· + 1)).map (· + start) := by
  rw [List.map_map]
  exact List.map_congr_left fun i _ => by simp only [Function.comp_apply]; omega

/-- **The search finds the foremost embedding**, if there is any.  The induction is on the
search itself, for an arbitrary state of it. -/
theorem finds_search (A : Arithmetic) (s : Search) (query text : Text) :
    Finds query text s.position (search A s query text) := by
  fun_induction search A s query text with
  | case1 s text => exact ⟨[], rfl, foremost_nil⟩
  | case2 s q query => exact fun positions => not_embeds_nil_right
  | case3 s query c text ih =>
    rcases hfound : search A (s.found A c) query text with _ | m
    · rw [hfound] at ih
      intro positions h
      rcases embeds_cons_iff.mp h with ⟨others, -, hpassed⟩ | ⟨rest, others, heq, -, hrest⟩
      · obtain ⟨i, others, -, htail⟩ := hpassed.exists_cons
        exact ih others htail
      · obtain ⟨-, rfl⟩ := List.cons.inj heq
        exact ih others hrest
    · rw [hfound] at ih
      obtain ⟨positions, hpositions, hforemost⟩ := ih
      refine ⟨0 :: positions.map (· + 1), ?_, hforemost.take⟩
      show s.position :: m.positions = _
      rw [hpositions, List.map_cons, Nat.zero_add, ← map_add_succ]
      rfl
  | case4 s q query c text hc ih =>
    rcases hfound : search A (s.pass c) (q :: query) text with _ | m
    · rw [hfound] at ih
      intro positions h
      rcases embeds_cons_iff.mp h with ⟨others, -, hpassed⟩ | ⟨rest, others, heq, -, -⟩
      · exact ih others hpassed
      · exact hc (List.cons.inj heq).1.symm
    · rw [hfound] at ih
      obtain ⟨positions, hpositions, hforemost⟩ := ih
      refine ⟨positions.map (· + 1), ?_, hforemost.pass hc⟩
      rw [← map_add_succ]
      exact hpositions

theorem Finds.isSome_iff {start : Nat} {found : Option Match} (h : Finds query text start found) :
    found.isSome = true ↔ query.Sublist text := by
  rw [← exists_embeds_iff_sublist]
  rcases found with _ | m
  · exact ⟨(nomatch ·), fun ⟨positions, hpositions⟩ => absurd hpositions (h positions)⟩
  · obtain ⟨positions, -, hforemost⟩ := h
    exact ⟨fun _ => ⟨positions, hforemost.embeds⟩, fun _ => rfl⟩

/-- A search that is left out finds nothing. -/
theorem subsequence_eq_search (A : Arithmetic) (query text : Text) :
    subsequence A query text = search A {} (Text.fold query) (Text.fold text) := by
  have hfinds := finds_search A {} (Text.fold query) (Text.fold text)
  rw [subsequence]
  split
  · next hempty =>
    rw [List.isEmpty_iff.mp hempty, search]
  · dsimp only
    split
    · next hshort =>
      refine (Option.not_isSome_iff_eq_none.mp fun hsome => ?_).symm
      exact Nat.not_le_of_lt hshort (hfinds.isSome_iff.mp hsome).length_le
    · rfl

theorem finds_subsequence (A : Arithmetic) (query text : Text) :
    Finds (Text.fold query) (Text.fold text) 0 (subsequence A query text) := by
  rw [subsequence_eq_search]
  exact finds_search A {} _ _

/-! ## Blocks -/

/-- The positions of a block where it stands in a text for the first time. -/
def FirstBlock (block text : Text) (positions : List Nat) : Prop :=
  ∃ start, positions = List.range' start block.length ∧ block <+: text.drop start ∧
    ∀ earlier < start, ¬ block <+: text.drop earlier

variable {block : Text}

/-- What is found is where the block stands first. -/
theorem blockAt?_spec {n : Nat} (h : blockAt? block text = some n) :
    block <+: text.drop n ∧ ∀ k < n, ¬ block <+: text.drop k := by
  induction text generalizing n with
  | nil =>
    rw [blockAt?] at h
    split at h
    · next hempty =>
      obtain rfl := Option.some.inj h
      rw [List.isEmpty_iff.mp hempty]
      exact ⟨List.nil_prefix, fun k hk => absurd hk (Nat.not_lt_zero k)⟩
    · exact nomatch h
  | cons c text ih =>
    rw [blockAt?] at h
    split at h
    · next hprefix =>
      obtain rfl := Option.some.inj h
      exact ⟨List.isPrefixOf_iff_prefix.mp hprefix, fun k hk => absurd hk (Nat.not_lt_zero k)⟩
    · next hprefix =>
      obtain ⟨m, hm, rfl⟩ := Option.map_eq_some_iff.mp h
      obtain ⟨hblock, hearlier⟩ := ih hm
      refine ⟨hblock, fun k hk => ?_⟩
      rcases k with _ | k
      · exact fun hblock => hprefix (List.isPrefixOf_iff_prefix.mpr hblock)
      · exact hearlier k (Nat.lt_of_succ_lt_succ hk)

theorem isSome_blockAt?_iff : (blockAt? block text).isSome = true ↔ block <:+: text := by
  induction text with
  | nil =>
    rw [blockAt?, List.infix_nil, ← List.isEmpty_iff]
    split
    · next h => simp [h]
    · next h => simp [h]
  | cons c text ih =>
    rw [blockAt?, List.infix_cons_iff, ← List.isPrefixOf_iff_prefix, ← ih]
    split
    · next h => simp [h]
    · next h => simp [h]

theorem map_positions_substring (A : Arithmetic) (query text : Text) :
    (substring A query text).map Match.positions =
      (blockAt? (Text.fold query) (Text.fold text)).map
        (List.range' · (Text.fold query).length) := by
  rw [substring]
  split
  · next hempty =>
    -- An empty block stands at the start of every text.
    rw [List.isEmpty_iff.mp hempty]
    rcases Text.fold text with _ | ⟨c, rest⟩
    · rfl
    · rfl
  · rw [Option.map_map]
    congr 1
    funext start
    simp only [Function.comp_apply, List.range'_eq_map_range, Nat.add_comm]

/-! ## What is found -/

/-- **A query is found where it stands first.**  It is found if and only if its characters, upper
and lower case taken as the same, stand in the text in the same order, and no other way to
find them has any of them earlier; as a block it is found if and only if it stands in the text as
a block, and then where it stands first. -/
theorem found_first (A : Arithmetic) (query text : Text) :
    ((subsequence A query text).isSome = true ↔ (Text.fold query).Sublist (Text.fold text)) ∧
    (∀ m ∈ subsequence A query text, Foremost (Text.fold query) (Text.fold text) m.positions) ∧
    ((substring A query text).isSome = true ↔ Text.fold query <:+: Text.fold text) ∧
    ∀ m ∈ substring A query text, FirstBlock (Text.fold query) (Text.fold text) m.positions := by
  have hfinds := finds_subsequence A query text
  have hblock := map_positions_substring A query text
  refine ⟨hfinds.isSome_iff, fun m hm => ?_, ?_, fun m hm => ?_⟩
  · rw [Option.mem_def.mp hm] at hfinds
    obtain ⟨positions, hpositions, hforemost⟩ := hfinds
    have hzero : positions.map (· + 0) = positions := List.map_id positions
    rwa [hpositions, hzero]
  · have hisSome := congrArg Option.isSome hblock
    rw [Option.isSome_map, Option.isSome_map] at hisSome
    rw [hisSome, isSome_blockAt?_iff]
  · rw [Option.mem_def.mp hm, Option.map_some] at hblock
    obtain ⟨start, hstart, hpositions⟩ := Option.map_eq_some_iff.mp hblock.symm
    obtain ⟨hstands, hearlier⟩ := blockAt?_spec hstart
    exact ⟨start, hpositions.symm, hstands, hearlier⟩

/-- A capital whose lower-case form has two characters counts as one. -/
theorem found_first_folded :
    let text := "İx iX".toList
    ∃ m, subsequence .exact "iX".toList text = some m ∧ m.positions = [0, 1] ∧
      Foremost (Text.fold "iX".toList) (Text.fold text) [0, 1] ∧
      ∃ b, substring .exact "X i".toList text = some b ∧ b.positions = [1, 2, 3] ∧
        FirstBlock (Text.fold "X i".toList) (Text.fold text) [1, 2, 3] := by
  intro text
  obtain ⟨m, hm, hpositions⟩ : ∃ m, subsequence .exact "iX".toList text = some m ∧
      m.positions = [0, 1] := ⟨_, rfl, rfl⟩
  obtain ⟨b, hb, hblock⟩ : ∃ b, substring .exact "X i".toList text = some b ∧
      b.positions = [1, 2, 3] := ⟨_, rfl, rfl⟩
  have hforemost := (found_first .exact "iX".toList text).2.1 m hm
  have hfirst := (found_first .exact "X i".toList text).2.2.2 b hb
  rw [hpositions] at hforemost
  rw [hblock] at hfirst
  exact ⟨m, hm, hpositions, hforemost, b, hb, hblock, hfirst⟩

end Fuzzy
end TerminalDialogs
