import TerminalDialogs.Proofs.Fuzzy.Embedding
import TerminalDialogs.Proofs.Text.Words

/-!
# Which items match, and in which order

A list is narrowed down to the items that have everything that is sought: all words of the query,
each of them spread over the item in any way, or the whole query as one block.  Each of these
items is there once, whatever the query, and with it the places where something was found
(`Ranked.Placed`).  Items stand in the order of the list; if they are sorted, then by their scores,
and those with the same score still in the order of the list.

That a sorted list keeps the order of equal scores is an induction over the list: an item that is
put in front of it is sorted in behind lower scores only (`pairwise_before_mergeSort`).

Typing on never brings an item back, since what is sought then has what was sought before at its
beginning (`exists_prefix_of_mem_sought`).
-/

namespace TerminalDialogs
namespace Fuzzy

/-! ## What is sought -/

/-- What is sought, one by one: the words of a query, or all of it as one block. -/
def sought (fuzzy : Bool) (query : Text) : List Text :=
  if fuzzy then Text.blankWords query else [Text.trim query]

/-- Whether a text has something that is sought, upper and lower case taken as the same. -/
def Has (fuzzy : Bool) (part text : Text) : Prop :=
  if fuzzy then (Text.fold part).Sublist (Text.fold text) else Text.fold part <:+: Text.fold text

/-- Whether a text has everything that is sought. -/
def Matches (fuzzy : Bool) (query text : Text) : Prop :=
  ∀ part ∈ sought fuzzy query, Has fuzzy part text

/-- Where something is found that is sought. -/
def find (A : Arithmetic) (fuzzy : Bool) (part text : Text) : Option Match :=
  if fuzzy then subsequence A part text else substring A part text

variable {A : Arithmetic} {items : List Text} {query text part : Text} {fuzzy sort : Bool}
  {m : Ranked} {found : Match} {p : Nat}

theorem isSome_substring_iff (A : Arithmetic) (query text : Text) :
    (substring A query text).isSome = true ↔ Text.fold query <:+: Text.fold text := by
  have h := congrArg Option.isSome (map_positions_substring A query text)
  rw [Option.isSome_map, Option.isSome_map] at h
  rw [h, isSome_blockAt?_iff]

theorem isSome_find_iff (A : Arithmetic) (fuzzy : Bool) (part text : Text) :
    (find A fuzzy part text).isSome = true ↔ Has fuzzy part text := by
  cases fuzzy with
  | true => exact (finds_subsequence A part text).isSome_iff
  | false => exact isSome_substring_iff A part text

/-- What is found stands within the text, and its places ascend. -/
theorem positions_find (h : found ∈ find A fuzzy part text) :
    found.positions.Pairwise (· < ·) ∧ ∀ p ∈ found.positions, p < text.length := by
  cases fuzzy with
  | true =>
    have hfinds := finds_subsequence A part text
    rw [show subsequence A part text = some found from h] at hfinds
    obtain ⟨positions, hpositions, hforemost⟩ := hfinds
    obtain rfl : found.positions = positions := hpositions.trans (List.map_id positions)
    refine ⟨hforemost.embeds.ascending, fun p hp => ?_⟩
    have hletter : (Text.fold text)[p]? ∈ (Text.fold part).map some :=
      hforemost.embeds.letters ▸ List.mem_map_of_mem hp
    obtain ⟨c, -, hc⟩ := List.mem_map.mp hletter
    rw [← Text.length_fold text]
    exact (List.getElem?_eq_some_iff.mp hc.symm).1
  | false =>
    have hblock := map_positions_substring A part text
    rw [show substring A part text = some found from h, Option.map_some] at hblock
    obtain ⟨start, hstart, hpositions⟩ := Option.map_eq_some_iff.mp hblock.symm
    rw [← hpositions]
    refine ⟨List.pairwise_lt_range', fun p hp => ?_⟩
    have hlength := (blockAt?_spec hstart).1.length_le
    rw [List.length_drop, Text.length_fold, Text.length_fold] at hlength
    rw [List.mem_range'_1, Text.length_fold] at hp
    omega

/-! ## Words together -/

theorem isSome_allWords_iff {words : List Text} : (allWords A words found text).isSome = true ↔
    ∀ word ∈ words, (subsequence A word text).isSome = true := by
  induction words generalizing found with
  | nil => simp [allWords]
  | cons word words ih =>
    rw [allWords, List.forall_mem_cons]
    rcases subsequence A word text with _ | m
    · simp
    · simpa using ih

theorem mem_positions_allWords {words : List Text} {all : Match}
    (h : allWords A words found text = some all) : p ∈ all.positions ↔
      p ∈ found.positions ∨ ∃ word ∈ words, ∃ m ∈ subsequence A word text, p ∈ m.positions := by
  induction words generalizing found with
  | nil =>
    obtain rfl := Option.some.inj h
    simp
  | cons word words ih =>
    rw [allWords] at h
    rcases hword : subsequence A word text with _ | m
    · rw [hword] at h
      exact nomatch h
    · rw [hword] at h
      rw [ih h]
      simp [hword, or_assoc]

theorem mem_dedupSorted {l : List Nat} : p ∈ dedupSorted l ↔ p ∈ l := by
  fun_induction dedupSorted l with
  | case1 => rfl
  | case2 a => rfl
  | case3 a rest ih =>
    rw [ih, List.mem_cons (l := a :: rest), or_iff_right_of_imp]
    rintro rfl
    exact List.mem_cons_self
  | case4 a b rest hne ih => rw [List.mem_cons, ih, List.mem_cons (l := b :: rest)]

theorem pairwise_dedupSorted {l : List Nat} (h : l.Pairwise (· ≤ ·)) :
    (dedupSorted l).Pairwise (· < ·) := by
  fun_induction dedupSorted l with
  | case1 => exact List.Pairwise.nil
  | case2 a => exact List.pairwise_singleton _ a
  | case3 a rest ih => exact ih h.of_cons
  | case4 a b rest hne ih =>
    refine List.pairwise_cons.mpr ⟨fun p hp => ?_, ih h.of_cons⟩
    have hab : a < b := lt_of_le_of_ne (List.rel_of_pairwise_cons h List.mem_cons_self) hne
    rcases List.mem_cons.mp (mem_dedupSorted.mp hp) with rfl | hp
    · exact hab
    · exact hab.trans_le (List.rel_of_pairwise_cons h.of_cons hp)

/-! ## Items -/

theorem isSome_matchItem_iff : (matchItem A fuzzy query text).isSome = true ↔
    Matches fuzzy query text := by
  have hparts : Matches fuzzy query text ↔
      ∀ part ∈ sought fuzzy query, (find A fuzzy part text).isSome = true :=
    forall₂_congr fun part _ => (isSome_find_iff A fuzzy part text).symm
  rw [hparts]
  cases fuzzy with
  | true => rw [matchItem, if_pos rfl, Option.isSome_map, isSome_allWords_iff]; rfl
  | false => simp [matchItem, sought, find]

/-- Where everything is found that is sought. -/
structure Ranked.Placed (A : Arithmetic) (fuzzy : Bool) (query text : Text) (m : Ranked) :
    Prop where
  ascending : m.positions.Pairwise (· < ·)
  within : ∀ p ∈ m.positions, p < text.length
  /-- What was found of anything that is sought is there, and nothing else. -/
  union : ∀ p, p ∈ m.positions ↔
    ∃ part ∈ sought fuzzy query, ∃ found ∈ find A fuzzy part text, p ∈ found.positions

theorem Ranked.placed_of_union {positions : List Nat} {index : Nat} {score : Int}
    (hascending : positions.Pairwise (· < ·)) (hunion : ∀ p, p ∈ positions ↔
      ∃ part ∈ sought fuzzy query, ∃ found ∈ find A fuzzy part text, p ∈ found.positions) :
    Ranked.Placed A fuzzy query text ⟨index, score, positions⟩ := by
  refine ⟨hascending, fun p hp => ?_, hunion⟩
  obtain ⟨part, -, found, hfound, hp⟩ := (hunion p).mp hp
  exact (positions_find hfound).2 p hp

theorem placed_matchItem {index : Nat} (h : matchItem A fuzzy query text = some found) :
    Ranked.Placed A fuzzy query text ⟨index, found.score, found.positions⟩ := by
  cases fuzzy with
  | true =>
    rw [matchItem, if_pos rfl] at h
    obtain ⟨all, hall, rfl⟩ := Option.map_eq_some_iff.mp h
    have hsorted : (all.positions.mergeSort (· ≤ ·)).Pairwise (· ≤ ·) :=
      List.sortedLE_mergeSort.pairwise
    refine Ranked.placed_of_union (pairwise_dedupSorted hsorted) fun p => ?_
    rw [mem_dedupSorted, List.mem_mergeSort, mem_positions_allWords hall,
      or_iff_right List.not_mem_nil]
    rfl
  | false =>
    have hfound : found ∈ find A false (Text.trim query) text := h
    refine Ranked.placed_of_union (positions_find hfound).1 fun p => ?_
    simp [sought, Option.mem_def.mp hfound]

/-- Nothing is sought in a blank query, or nothing but the empty text. -/
theorem eq_nil_of_mem_sought (hblank : ∀ c ∈ query, Text.isBlank c = true)
    (h : part ∈ sought fuzzy query) : part = [] := by
  cases fuzzy with
  | true =>
    rw [sought, if_pos rfl, Text.blankWords, Text.words_eq_nil_iff.mpr hblank] at h
    exact absurd h List.not_mem_nil
  | false =>
    have hpart : part = Text.trim query := List.mem_singleton.mp h
    rw [hpart, Text.trim, Text.trimBoth_eq_nil_iff.mpr hblank]

theorem matches_of_blank (hblank : ∀ c ∈ query, Text.isBlank c = true) (text : Text) :
    Matches fuzzy query text := by
  intro part hpart
  rw [eq_nil_of_mem_sought hblank hpart]
  cases fuzzy with
  | true => exact List.nil_sublist _
  | false => exact List.nil_infix

theorem placed_of_blank {index : Nat} {score : Int} (hblank : ∀ c ∈ query, Text.isBlank c = true) :
    Ranked.Placed A fuzzy query text ⟨index, score, []⟩ := by
  refine Ranked.placed_of_union List.Pairwise.nil fun p => ⟨fun h => absurd h List.not_mem_nil, ?_⟩
  rintro ⟨part, hpart, found, hfound, hp⟩
  rw [eq_nil_of_mem_sought hblank hpart] at hfound
  have hnone : find A fuzzy [] text = some {} := by
    cases fuzzy with
    | true => rfl
    | false => rfl
  rw [hnone] at hfound
  obtain rfl := Option.some.inj hfound
  exact absurd hp List.not_mem_nil

/-! ## The list -/

theorem blankWords_isEmpty_iff :
    (Text.blankWords query).isEmpty = true ↔ ∀ c ∈ query, Text.isBlank c = true := by
  rw [List.isEmpty_iff, Text.blankWords, Text.words_eq_nil_iff]

/-- What becomes of an item and its position. -/
def judge (A : Arithmetic) (query : Text) (fuzzy : Bool) (item : Text × Nat) : Option Ranked :=
  if (Text.blankWords query).isEmpty then some ⟨item.2, 0, []⟩
  else (matchItem A fuzzy query item.1).map fun m => ⟨item.2, m.score, m.positions⟩

theorem survivors_eq (A : Arithmetic) (items : List Text) (query : Text) (fuzzy : Bool) :
    survivors A items query fuzzy = items.zipIdx.filterMap (judge A query fuzzy) :=
  rfl

theorem mem_survivors_iff : m ∈ survivors A items query fuzzy ↔
    ∃ item ∈ items.zipIdx, judge A query fuzzy item = some m := by
  rw [survivors_eq, List.mem_filterMap]

variable {item : Text × Nat}

theorem isSome_judge_iff :
    (judge A query fuzzy item).isSome = true ↔ Matches fuzzy query item.1 := by
  rw [judge]
  split
  · next hblank =>
    exact iff_of_true rfl (matches_of_blank (blankWords_isEmpty_iff.mp hblank) item.1)
  · rw [Option.isSome_map, isSome_matchItem_iff]

theorem judge_spec (h : judge A query fuzzy item = some m) :
    m.index = item.2 ∧ m.Placed A fuzzy query item.1 := by
  rw [judge] at h
  split at h
  · next hblank =>
    obtain rfl := Option.some.inj h
    exact ⟨rfl, placed_of_blank (blankWords_isEmpty_iff.mp hblank)⟩
  · obtain ⟨found, hfound, rfl⟩ := Option.map_eq_some_iff.mp h
    exact ⟨rfl, placed_matchItem hfound⟩

/-- The items that are kept are those that have everything that is sought. -/
theorem mem_index_survivors {i : Nat} :
    i ∈ (survivors A items query fuzzy).map Ranked.index ↔
      ∃ text, items[i]? = some text ∧ Matches fuzzy query text := by
  rw [List.mem_map]
  constructor
  · rintro ⟨m, hm, rfl⟩
    obtain ⟨item, hitem, hjudge⟩ := mem_survivors_iff.mp hm
    rw [(judge_spec hjudge).1]
    exact ⟨item.1, List.mem_zipIdx_iff_getElem?.mp hitem,
      isSome_judge_iff.mp (Option.isSome_of_mem hjudge)⟩
  · rintro ⟨text, htext, hmatches⟩
    have hsome : (judge A query fuzzy (text, i)).isSome = true := isSome_judge_iff.mpr hmatches
    obtain ⟨m, hm⟩ := Option.isSome_iff_exists.mp hsome
    exact ⟨m, mem_survivors_iff.mpr ⟨(text, i), List.mem_zipIdx_iff_getElem?.mpr htext, hm⟩,
      (judge_spec hm).1⟩

theorem placed_of_mem_survivors (h : m ∈ survivors A items query fuzzy) :
    ∃ text, items[m.index]? = some text ∧ m.Placed A fuzzy query text := by
  obtain ⟨item, hitem, hjudge⟩ := mem_survivors_iff.mp h
  obtain ⟨hindex, hplaced⟩ := judge_spec hjudge
  exact ⟨item.1, hindex ▸ List.mem_zipIdx_iff_getElem?.mp hitem, hplaced⟩

/-- In a blank query nothing is better than anything else. -/
theorem score_of_blank (hblank : ∀ c ∈ query, Text.isBlank c = true)
    (h : m ∈ survivors A items query fuzzy) : m.score = 0 := by
  obtain ⟨item, -, hjudge⟩ := mem_survivors_iff.mp h
  rw [judge, if_pos (blankWords_isEmpty_iff.mpr hblank)] at hjudge
  rw [← Option.some.inj hjudge]

theorem ascending_survivors (A : Arithmetic) (items : List Text) (query : Text) (fuzzy : Bool) :
    (survivors A items query fuzzy).Pairwise fun a b => a.index < b.index := by
  have hnumbered : items.zipIdx.Pairwise fun a b => a.2 < b.2 := by
    rw [List.pairwise_iff_getElem]
    intro i j hi hj hij
    simpa using hij
  rw [survivors_eq]
  refine hnumbered.filterMap _ fun a b hab x hx y hy => ?_
  rw [(judge_spec hx).1, (judge_spec hy).1]
  exact hab

theorem perm_rank :
    (rank A items query fuzzy sort).Perm (survivors A items query fuzzy) := by
  rw [rank]
  split
  · exact List.mergeSort_perm _ _
  · exact List.Perm.refl _

theorem mem_index_rank {i : Nat} : i ∈ (rank A items query fuzzy sort).map Ranked.index ↔
    ∃ text, items[i]? = some text ∧ Matches fuzzy query text := by
  rw [(perm_rank.map Ranked.index).mem_iff, mem_index_survivors]

theorem nodup_index_rank (A : Arithmetic) (items : List Text) (query : Text) (fuzzy sort : Bool) :
    ((rank A items query fuzzy sort).map Ranked.index).Nodup := by
  have hascending := List.pairwise_map.mpr (ascending_survivors A items query fuzzy)
  exact (perm_rank.map Ranked.index).nodup_iff.mpr hascending.nodup

/-- Who comes first: a lower score or, with the same score, an earlier place in the list. -/
def Ranked.Before (a b : Ranked) : Prop :=
  a.score < b.score ∨ a.score = b.score ∧ a.index < b.index

/-- **Sorting by scores keeps the order of equal scores.** -/
theorem pairwise_before_mergeSort {l : List Ranked} (h : l.Pairwise fun a b => a.index < b.index) :
    (l.mergeSort fun a b => a.score ≤ b.score).Pairwise Ranked.Before := by
  have htrans (a b c : Ranked) (hab : decide (a.score ≤ b.score) = true)
      (hbc : decide (b.score ≤ c.score) = true) : decide (a.score ≤ c.score) = true := by
    rw [decide_eq_true_iff] at hab hbc ⊢
    exact hab.trans hbc
  have htotal (a b : Ranked) :
      (decide (a.score ≤ b.score) || decide (b.score ≤ a.score)) = true := by
    simpa using le_total a.score b.score
  induction l with
  | nil => simp
  | cons a l ih =>
    obtain ⟨front, back, hcons, htail, hfront⟩ := List.mergeSort_cons htrans htotal a l
    have hsorted := List.pairwise_mergeSort htrans htotal (a :: l)
    have hrest := ih h.of_cons
    rw [hcons, List.pairwise_append, List.pairwise_cons] at hsorted
    rw [htail, List.pairwise_append] at hrest
    rw [hcons, List.pairwise_append, List.pairwise_cons]
    refine ⟨hrest.1, ⟨fun b hb => ?_, hrest.2.1⟩, fun b hb c hc => ?_⟩
    · have hmem : b ∈ l.mergeSort fun a b => decide (a.score ≤ b.score) := by
        rw [htail]
        exact List.mem_append_right front hb
      have hle : a.score ≤ b.score := of_decide_eq_true (hsorted.2.1.1 b hb)
      have hlater := List.rel_of_pairwise_cons h (List.mem_mergeSort.mp hmem)
      exact hle.lt_or_eq.imp_right fun heq => ⟨heq, hlater⟩
    · rcases List.mem_cons.mp hc with rfl | hc
      · exact Or.inl (by simpa using hfront b hb)
      · exact hrest.2.2 b hb c hc

theorem pairwise_before_rank (A : Arithmetic) (items : List Text) (query : Text) (fuzzy : Bool) :
    (rank A items query fuzzy true).Pairwise Ranked.Before := by
  have hsurvivors := ascending_survivors A items query fuzzy
  rw [rank]
  split
  · exact pairwise_before_mergeSort hsurvivors
  · next hblank =>
    have hzero {m : Ranked} (hm : m ∈ survivors A items query fuzzy) : m.score = 0 := by
      refine score_of_blank (fun c => ?_) hm
      exact blankWords_isEmpty_iff.mp (by simpa using hblank) c
    refine hsurvivors.imp_of_mem fun ha hb hab => Or.inr ⟨?_, hab⟩
    rw [hzero ha, hzero hb]

theorem ascending_rank (h : sort = false ∨ ∀ c ∈ query, Text.isBlank c = true) :
    ((rank A items query fuzzy sort).map Ranked.index).Pairwise (· < ·) := by
  have hunsorted : (sort && !(Text.blankWords query).isEmpty) = false := by
    rcases h with rfl | hblank
    · rfl
    · rw [blankWords_isEmpty_iff.mpr hblank, Bool.not_true, Bool.and_false]
  rw [rank, hunsorted, List.pairwise_map]
  exact ascending_survivors A items query fuzzy

/-! ## One more character -/

theorem exists_prefix_of_mem_sought {c : Char} (hc : Text.isBlank c = false)
    (h : part ∈ sought fuzzy query) : ∃ longer ∈ sought fuzzy (query ++ [c]), part <+: longer := by
  cases fuzzy with
  | true => exact Text.exists_prefix_of_mem_words hc h
  | false =>
    rw [List.mem_singleton.mp h]
    exact ⟨_, List.mem_singleton_self _, Text.trimBoth_prefix_concat hc query⟩

theorem Has.shorten {longer : Text} (hfront : part <+: longer) (h : Has fuzzy longer text) :
    Has fuzzy part text := by
  have hfold : Text.fold part <+: Text.fold longer := hfront.map Text.foldChar
  cases fuzzy with
  | true => exact hfold.sublist.trans h
  | false => exact hfold.isInfix.trans h

theorem Matches.of_concat {c : Char} (hc : Text.isBlank c = false)
    (h : Matches fuzzy (query ++ [c]) text) : Matches fuzzy query text := by
  intro part hpart
  obtain ⟨longer, hlonger, hfront⟩ := exists_prefix_of_mem_sought hc hpart
  exact (h longer hlonger).shorten hfront

/-! ## The whole list -/

/-- **Exactly the items that match are kept, each once and in a stable order.**  With each of them
stand the places of what was found in it, all of them and ascending.  Without sorting, and where
nothing is sought, the items keep the order of the list; if they are sorted, a lower score comes
first and equal scores keep the order of the list.  Typing on brings no item back. -/
theorem matching_items_ranked (A : Arithmetic) (items : List Text) (query : Text)
    (fuzzy sort : Bool) :
    let ranked := rank A items query fuzzy sort
    let indices := ranked.map Ranked.index
    let blank := ∀ c ∈ query, Text.isBlank c = true
    (∀ i, i ∈ indices ↔ ∃ text, items[i]? = some text ∧ Matches fuzzy query text) ∧
      (blank → ∀ i, i ∈ indices ↔ i < items.length) ∧
      indices.Nodup ∧
      (∀ m ∈ ranked, ∃ text, items[m.index]? = some text ∧ m.Placed A fuzzy query text) ∧
      (sort = false ∨ blank → indices.Pairwise (· < ·)) ∧
      (sort = true → ranked.Pairwise Ranked.Before) ∧
      ∀ c, Text.isBlank c = false →
        (rank A items (query ++ [c]) fuzzy sort).map Ranked.index ⊆ indices := by
  intro ranked indices blank
  refine ⟨fun i => mem_index_rank, fun hblank i => ?_, nodup_index_rank A items query fuzzy sort,
    fun m hm => ?_, ascending_rank, ?_, fun c hc i hi => ?_⟩
  · rw [mem_index_rank]
    constructor
    · rintro ⟨text, htext, -⟩
      exact (List.getElem?_eq_some_iff.mp htext).1
    · intro hi
      exact ⟨items[i], List.getElem?_eq_getElem hi, matches_of_blank hblank _⟩
  · exact placed_of_mem_survivors (perm_rank.mem_iff.mp hm)
  · rintro rfl
    exact pairwise_before_rank A items query fuzzy
  · obtain ⟨text, htext, hmatches⟩ := mem_index_rank.mp hi
    exact mem_index_rank.mpr ⟨text, htext, hmatches.of_concat hc⟩

/-- Two words in any order; the last two items are equally good, and one more letter leaves only
these. -/
theorem matching_items_ranked_words :
    let items := ["b_a".toList, "x".toList, "ab".toList, "AB".toList]
    let query := "b a".toList
    let ranked := rank .exact items query true true
    ranked = [⟨0, -78, [0, 2]⟩, ⟨2, -39, [0, 1]⟩, ⟨3, -39, [0, 1]⟩] ∧
      ranked.Pairwise Ranked.Before ∧
      (∃ text, items[2]? = some text ∧ Ranked.Placed .exact true query text ⟨2, -39, [0, 1]⟩) ∧
      (rank .exact items (query ++ ['b']) true true).map Ranked.index ⊆ [0, 2, 3] ∧
      (∀ i, i ∈ (rank .exact items [' '] true true).map Ranked.index ↔ i < 4) ∧
      ((rank .exact items [' '] true true).map Ranked.index).Pairwise (· < ·) := by
  have hranked : rank .exact ["b_a".toList, "x".toList, "ab".toList, "AB".toList] "b a".toList
      true true = [⟨0, -78, [0, 2]⟩, ⟨2, -39, [0, 1]⟩, ⟨3, -39, [0, 1]⟩] := by cbv
  have hblank : ∀ c ∈ [' '], Text.isBlank c = true := List.forall_mem_singleton.mpr (by decide)
  intro items query ranked
  obtain ⟨-, -, -, hplaced, -, hsorted, htyped⟩ :=
    matching_items_ranked .exact items query true true
  obtain ⟨-, hall, -, -, hascending, -, -⟩ := matching_items_ranked .exact items [' '] true true
  have htyped' := htyped 'b' (by decide)
  have hmem : ⟨2, -39, [0, 1]⟩ ∈ ranked := by
    rw [show ranked = _ from hranked]
    exact List.mem_cons_of_mem _ List.mem_cons_self
  have hindices : ranked.map Ranked.index = [0, 2, 3] := congrArg (List.map Ranked.index) hranked
  exact ⟨hranked, hsorted rfl, hplaced _ hmem, hindices ▸ htyped', hall hblank,
    hascending (Or.inr hblank)⟩

end Fuzzy
end TerminalDialogs
