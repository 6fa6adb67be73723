import Mathlib
import TerminalDialogs.Proofs.Widget.Protocol

/-!
# What is switched on, and when

Where several items may be chosen they are switched on and off, and what is on is returned in the
order in which it was switched on.  A widget keeps a list of the positions that are on; a position
that is switched off is taken out of it, wherever it stands, and one that is switched on is put
behind all others.

A *ledger* knows the past instead.  It has the set of the positions that are on and, the latest
first, every position that was ever switched on, as often as that happened.  The list of a widget
follows the ledger of what was switched (`Toggles.Records`): it holds what is on, and of two
positions that one stands first whose last time to be switched on came first
(`Toggles.kept_ofSwitches`).

What a call switches depends on the widget that is called (`Widget.switch?`); the run lemma
`Widget.after_switches` carries what one call keeps over all of them.
-/

namespace TerminalDialogs

/-! ## Ledgers -/

/-- What can be done to the positions of a list. -/
inductive Switch where
  /-- One position is switched, on or off. -/
  | one (i : Nat)
  /-- One position is switched on, unless it is on. -/
  | on (i : Nat)
  /-- All positions of a list of some length are switched on, or off if all are on. -/
  | all (count : Nat)
  deriving DecidableEq, Repr

/-- The positions that are on, and those that were switched on, the latest first. -/
structure Ledger where
  on : Finset Nat := ∅
  log : List Nat := []

namespace Ledger

/-- A position that was off is switched on. -/
def enter (l : Ledger) (i : Nat) : Ledger := ⟨insert i l.on, i :: l.log⟩

/-- A position that was off is switched on if the limit allows it; zero is no limit. -/
def accept (limit : Nat) (l : Ledger) (i : Nat) : Ledger :=
  if limit = 0 ∨ l.on.card < limit then l.enter i else l

/-- The ledger after something was switched. -/
def apply (limit : Nat) (l : Ledger) : Switch → Ledger
  | .one i => if i ∈ l.on then { l with on := l.on.erase i } else l.accept limit i
  | .on i => if i ∈ l.on then l else l.accept limit i
  | .all count =>
      if l.on = Finset.range count then { l with on := ∅ }
      else ((List.range count).filter (· ∉ l.on)).foldl enter l

/-- The ledger of a history. -/
def ofSwitches (limit : Nat) (switches : List Switch) : Ledger := switches.foldl (apply limit) {}

/-- The last time that one position was switched on came before the last time that another one
was: looking back from now, the other one is met first. -/
def Before (l : Ledger) (i j : Nat) : Prop := l.log.idxOf j < l.log.idxOf i

instance (l : Ledger) (i j : Nat) : Decidable (l.Before i j) :=
  inferInstanceAs (Decidable (l.log.idxOf j < l.log.idxOf i))

variable {l : Ledger} {i j k limit count : Nat}

theorem Before.asymm (h : l.Before i j) : ¬ l.Before j i := Nat.lt_asymm h

theorem before_enter (hi : i ≠ k) (hj : j ≠ k) : (l.enter k).Before i j ↔ l.Before i j := by
  unfold Before enter
  rw [List.idxOf_cons_ne _ hi.symm, List.idxOf_cons_ne _ hj.symm, Nat.succ_lt_succ_iff]

theorem before_enter_self (hi : i ≠ k) : (l.enter k).Before i k := by
  unfold Before enter
  rw [List.idxOf_cons_ne _ hi.symm, List.idxOf_cons_self]
  exact Nat.succ_pos _

theorem on_foldl_enter (positions : List Nat) (l : Ledger) :
    (positions.foldl enter l).on = l.on ∪ positions.toFinset := by
  induction positions generalizing l with
  | nil => simp
  | cons i positions ih =>
    rw [List.foldl_cons, ih, enter, List.toFinset_cons, Finset.insert_union, Finset.union_insert]

/-- What is on are positions of a list, and no more of them than a limit allows. -/
structure Within (count limit : Nat) (l : Ledger) : Prop where
  valid : ∀ i ∈ l.on, i < count
  limited : limit ≠ 0 → l.on.card ≤ limit

theorem Within.start : Within count limit {} :=
  ⟨fun i hi => absurd hi (Finset.notMem_empty i), fun _ => Nat.zero_le _⟩

theorem Within.accept (h : l.Within count limit) (hi : i < count) (hoff : i ∉ l.on) :
    (l.accept limit i).Within count limit := by
  rw [Ledger.accept]
  split
  · next hallowed =>
    refine ⟨fun j hj => ?_, fun hlimit => ?_⟩
    · rcases Finset.mem_insert.mp hj with rfl | hj
      · exact hi
      · exact h.valid j hj
    · rw [enter, Finset.card_insert_of_notMem hoff]
      exact hallowed.resolve_left hlimit
  · exact h

end Ledger

/-- Something that can be done to a list of some length under some limit: all positions are
switched only where there is no limit. -/
def Switch.Allowed (count limit : Nat) : Switch → Prop
  | .one i => i < count
  | .on i => i < count
  | .all n => n = count ∧ limit = 0

theorem Ledger.Within.apply {count limit : Nat} {l : Ledger} (h : l.Within count limit)
    {s : Switch} (hs : s.Allowed count limit) : (l.apply limit s).Within count limit := by
  rcases s with i | i | n
  · rw [Ledger.apply]
    split
    · exact ⟨fun j hj => h.valid j (Finset.mem_of_mem_erase hj),
        fun hlimit => (Finset.card_erase_le).trans (h.limited hlimit)⟩
    · next hoff => exact h.accept hs hoff
  · rw [Ledger.apply]
    split
    · exact h
    · next hoff => exact h.accept hs hoff
  · obtain ⟨rfl, rfl⟩ := hs
    rw [Ledger.apply]
    split
    · exact ⟨fun i hi => absurd hi (Finset.notMem_empty i), fun hlimit => absurd rfl hlimit⟩
    · refine ⟨fun i hi => ?_, fun hlimit => absurd rfl hlimit⟩
      rw [on_foldl_enter, Finset.mem_union, List.mem_toFinset] at hi
      rcases hi with hi | hi
      · exact h.valid i hi
      · exact List.mem_range.mp (List.mem_of_mem_filter hi)

/-! ## The list of a widget -/

namespace Toggles

/-- The list after something was switched. -/
def apply (limit : Nat) (t : Toggles) : Switch → Toggles
  | .one i => t.toggle i limit
  | .on i => t.turnOn limit i
  | .all count =>
      if t.count = count then {} else (List.range count).foldl (Toggles.turnOn · 0 ·) t

/-- The list of a history. -/
def ofSwitches (limit : Nat) (switches : List Switch) : Toggles := switches.foldl (apply limit) {}

/-- A list that follows a ledger. -/
structure Records (l : Ledger) (t : Toggles) : Prop where
  mem_iff : ∀ i, i ∈ t.order ↔ i ∈ l.on
  sorted : t.order.Pairwise l.Before
  logged : ∀ i ∈ l.on, i ∈ l.log

namespace Records

variable {l : Ledger} {t : Toggles} {i j limit count : Nat}

theorem clear (l : Ledger) : Records { l with on := ∅ } {} :=
  ⟨fun i => by simp, List.Pairwise.nil, fun i hi => absurd hi (Finset.notMem_empty i)⟩

theorem nodup (h : Records l t) : t.order.Nodup :=
  h.sorted.imp fun hbefore heq => by
    subst heq
    exact hbefore.asymm hbefore

theorem toFinset_order (h : Records l t) : t.order.toFinset = l.on := by
  ext i
  rw [List.mem_toFinset, h.mem_iff]

theorem count_eq (h : Records l t) : t.count = l.on.card := by
  rw [← h.toFinset_order, List.toFinset_card_of_nodup h.nodup]
  rfl

theorem contains_iff (h : Records l t) : t.contains i = true ↔ i ∈ l.on := by
  rw [contains, List.contains_iff_mem, h.mem_iff]

/-- **Who stands first** was switched on first, of the two last times. -/
theorem before_iff (h : Records l t) (hi : i ∈ t.order) (hj : j ∈ t.order) :
    t.order.idxOf i < t.order.idxOf j ↔ l.Before i j := by
  have hi' := List.idxOf_lt_length_of_mem hi
  have hj' := List.idxOf_lt_length_of_mem hj
  have hbefore {a b : Nat} (ha : t.order.idxOf a < t.order.length)
      (hb : t.order.idxOf b < t.order.length) (hab : t.order.idxOf a < t.order.idxOf b) :
      l.Before a b := by
    have hpair := List.pairwise_iff_getElem.mp h.sorted _ _ ha hb hab
    rwa [List.getElem_idxOf, List.getElem_idxOf] at hpair
  refine ⟨hbefore hi' hj', fun hij => ?_⟩
  rcases Nat.lt_trichotomy (t.order.idxOf i) (t.order.idxOf j) with hlt | heq | hgt
  · exact hlt
  · obtain rfl := List.idxOf_inj hi |>.mp heq
    exact absurd hij hij.asymm
  · exact absurd hij (hbefore hj' hi' hgt).asymm

theorem erase (h : Records l t) (i : Nat) :
    Records { l with on := l.on.erase i } ⟨t.order.erase i⟩ := by
  refine ⟨fun j => ?_, h.sorted.sublist List.erase_sublist, fun j hj => ?_⟩
  · rw [h.nodup.mem_erase_iff, h.mem_iff, Finset.mem_erase]
  · exact h.logged j (Finset.mem_of_mem_erase hj)

theorem enter (h : Records l t) (hi : i ∉ l.on) : Records (l.enter i) ⟨t.order ++ [i]⟩ := by
  have hne {j : Nat} (hj : j ∈ t.order) : j ≠ i := by
    rintro rfl
    exact hi ((h.mem_iff j).mp hj)
  refine ⟨fun j => ?_, List.pairwise_append.mpr ⟨?_, List.pairwise_singleton _ _, ?_⟩,
    fun j hj => ?_⟩
  · rw [List.mem_append, List.mem_singleton, h.mem_iff, Ledger.enter, Finset.mem_insert, or_comm]
  · exact h.sorted.imp_of_mem fun ha hb => (Ledger.before_enter (hne ha) (hne hb)).mpr
  · intro j hj k hk
    obtain rfl := List.mem_singleton.mp hk
    exact Ledger.before_enter_self (hne hj)
  · rcases Finset.mem_insert.mp hj with rfl | hj
    · exact List.mem_cons_self
    · exact List.mem_cons_of_mem _ (h.logged j hj)

theorem accept (h : Records l t) (hi : i ∉ l.on) : Records (l.accept limit i)
    (if limit = 0 ∨ t.count < limit then ⟨t.order ++ [i]⟩ else t) := by
  rw [Ledger.accept, h.count_eq]
  split
  · exact h.enter hi
  · exact h

theorem toggle (h : Records l t) (i limit : Nat) :
    Records (l.apply limit (.one i)) (t.toggle i limit) := by
  rw [Ledger.apply, Toggles.toggle]
  by_cases hi : i ∈ l.on
  · rw [if_pos hi, if_pos (h.contains_iff.mpr hi)]
    exact h.erase i
  · rw [if_neg hi, if_neg (mt h.contains_iff.mp hi)]
    exact h.accept hi

theorem turnOn (h : Records l t) (limit i : Nat) :
    Records (l.apply limit (.on i)) (t.turnOn limit i) := by
  rw [Ledger.apply, Toggles.turnOn, Toggles.toggle]
  by_cases hi : i ∈ l.on
  · rw [if_pos hi, if_pos (h.contains_iff.mpr hi)]
    exact h
  · rw [if_neg hi, if_neg (mt h.contains_iff.mp hi), if_neg (mt h.contains_iff.mp hi)]
    exact h.accept hi

/-- Those that are missing are switched on in the order of the list. -/
theorem foldl_turnOn {positions : List Nat} (hpositions : positions.Nodup) (h : Records l t) :
    Records ((positions.filter (· ∉ l.on)).foldl Ledger.enter l)
      (positions.foldl (Toggles.turnOn · 0 ·) t) := by
  induction positions generalizing l t with
  | nil => exact h
  | cons i positions ih =>
    obtain ⟨hi, hpositions⟩ := List.nodup_cons.mp hpositions
    have hstep := h.turnOn 0 i
    rw [Ledger.apply, Ledger.accept, if_pos (Or.inl rfl)] at hstep
    rw [List.filter_cons, List.foldl_cons]
    by_cases hon : i ∈ l.on
    · rw [if_pos hon] at hstep
      rw [if_neg (by simpa using hon)]
      exact ih hpositions hstep
    · rw [if_neg hon] at hstep
      rw [if_pos (by simpa using hon), List.foldl_cons]
      -- Entering one position does not change which others are missing.
      have hmissing : positions.filter (· ∉ (l.enter i).on) = positions.filter (· ∉ l.on) := by
        refine List.filter_congr fun j hj => ?_
        have hne : j ≠ i := fun heq => hi (heq ▸ hj)
        simp [Ledger.enter, hne]
      rw [← hmissing]
      exact ih hpositions hstep

theorem toggleAll (h : Records l t) (hvalid : ∀ i ∈ l.on, i < count) (limit : Nat) :
    Records (l.apply limit (.all count)) (t.apply limit (.all count)) := by
  have hsubset : l.on ⊆ Finset.range count := fun i hi => Finset.mem_range.mpr (hvalid i hi)
  have hall : t.count = count ↔ l.on = Finset.range count := by
    rw [h.count_eq]
    constructor
    · intro hcard
      exact Finset.eq_of_subset_of_card_le hsubset (by rw [Finset.card_range, hcard])
    · intro heq
      rw [heq, Finset.card_range]
  rw [Ledger.apply, Toggles.apply]
  by_cases heq : l.on = Finset.range count
  · rw [if_pos heq, if_pos (hall.mpr heq)]
    exact clear l
  · rw [if_neg heq, if_neg (mt hall.mp heq)]
    exact h.foldl_turnOn List.nodup_range

theorem apply (h : Records l t) (hwithin : l.Within count limit) {s : Switch}
    (hs : s.Allowed count limit) : Records (l.apply limit s) (t.apply limit s) := by
  rcases s with i | i | n
  · exact h.toggle i limit
  · exact h.turnOn limit i
  · exact h.toggleAll (hs.1 ▸ hwithin.valid) limit

/-- A list goes on following a ledger, whatever is switched. -/
theorem foldl_apply {switches : List Switch} (h : Records l t) (hwithin : l.Within count limit)
    (hswitches : ∀ s ∈ switches, s.Allowed count limit) :
    Records (switches.foldl (Ledger.apply limit) l) (switches.foldl (Toggles.apply limit) t) ∧
      (switches.foldl (Ledger.apply limit) l).Within count limit := by
  induction switches generalizing l t with
  | nil => exact ⟨h, hwithin⟩
  | cons s switches ih =>
    rw [List.forall_mem_cons] at hswitches
    exact ih (h.apply hwithin hswitches.1) (hwithin.apply hswitches.1) hswitches.2

end Records

/-- What a list of positions that are on has to do with what was switched: each position is in it
once, it is a position of the list, no more are on than the limit allows, and they stand in the
order in which they were switched on for the last time. -/
structure Kept (count limit : Nat) (switches : List Switch) (t : Toggles) : Prop where
  nodup : t.order.Nodup
  valid : ∀ i ∈ t.order, i < count
  limited : limit ≠ 0 → t.order.length ≤ limit
  mem_iff : ∀ i, i ∈ t.order ↔ i ∈ (Ledger.ofSwitches limit switches).on
  logged : ∀ i ∈ t.order, i ∈ (Ledger.ofSwitches limit switches).log
  before_iff : ∀ i ∈ t.order, ∀ j ∈ t.order,
    t.order.idxOf i < t.order.idxOf j ↔ (Ledger.ofSwitches limit switches).Before i j

/-- **A list of positions keeps what was switched**, if only what is allowed was. -/
theorem kept_ofSwitches {count limit : Nat} {switches : List Switch}
    (h : ∀ s ∈ switches, s.Allowed count limit) :
    Kept count limit switches (ofSwitches limit switches) := by
  obtain ⟨hrecords, hwithin⟩ := (Records.clear {}).foldl_apply Ledger.Within.start h
  exact {
    nodup := hrecords.nodup
    valid := fun i hi => hwithin.valid i ((hrecords.mem_iff i).mp hi)
    limited := fun hlimit => hrecords.count_eq.le.trans (hwithin.limited hlimit)
    mem_iff := hrecords.mem_iff
    logged := fun i hi => hrecords.logged i ((hrecords.mem_iff i).mp hi)
    before_iff := fun _ hi _ hj => hrecords.before_iff hi hj }

/-- A position that is switched off and on again stands last; under a limit of two, a third one
finds no room. -/
example : (ofSwitches 2 [.one 3, .one 1, .one 0, .one 3, .one 3]).order = [1, 3] := by decide

/-- In ascending order the positions that are on are those of the list that are on. -/
theorem Kept.sorted_eq {count limit : Nat} {switches : List Switch} {t : Toggles}
    (h : t.Kept count limit switches) : t.sorted = (List.range count).filter (· ∈ t.order) := by
  have hsorted : t.sorted.SortedLT :=
    List.sortedLE_mergeSort.sortedLT_of_nodup (List.nodup_mergeSort.mpr h.nodup)
  refine hsorted.eq_of_mem_iff (List.pairwise_lt_range.filter _).sortedLT fun i => ?_
  rw [sorted, List.mem_mergeSort, List.mem_filter, List.mem_range, decide_eq_true_iff]
  exact ⟨fun hi => ⟨h.valid i hi, hi⟩, And.right⟩

/-- A list that is what a history makes of it; where one position may be on at most, nothing is
ever switched. -/
structure Tracks (count limit : Nat) (multi : Bool) (past : List Switch) (t : Toggles) : Prop where
  eq : t = ofSwitches limit past
  allowed : ∀ s ∈ past, s.Allowed count limit
  single : multi = false → past = []

namespace Tracks

variable {count limit : Nat} {multi : Bool} {past : List Switch} {t : Toggles}

theorem append (h : Tracks count limit multi past t) {next? : Option Switch}
    (hallowed : ∀ s ∈ next?, s.Allowed count limit) (hsingle : multi = false → next? = none) :
    Tracks count limit multi (past ++ next?.toList) (next?.toList.foldl (apply limit) t) := by
  refine ⟨?_, fun s hs => ?_, fun hmulti => ?_⟩
  · rw [h.eq]
    exact List.foldl_append.symm
  · rcases List.mem_append.mp hs with hs | hs
    · exact h.allowed s hs
    · exact hallowed s (Option.mem_toList.mp hs)
  · rw [h.single hmulti, hsingle hmulti]
    rfl

theorem kept (h : Tracks count limit multi past t) : Kept count limit past t := by
  rw [h.eq]
  exact kept_ofSwitches h.allowed

theorem order_nil (h : Tracks count limit multi past t) (hmulti : multi = false) :
    t.order = [] := by
  rw [h.eq, h.single hmulti]
  rfl

end Tracks

end Toggles

/-! ## What calls switch -/

namespace Widget

/-- What a key switches in a choice: an item or, where any number may be chosen, all of them. -/
def Choose.switch? (w : Choose) (k : Key) : Option Switch :=
  match k.code with
  | .char 'a' => if k.ctrl && w.options.noLimit then some (.all w.count) else none
  | .char ' ' | .tab | .char 'x' =>
      if w.options.isMulti && w.position.cursor < w.count then some (.one w.position.cursor)
      else none
  | _ => none

/-- What a key switches in a list that is narrowed down: an item, by its position among all
items. -/
def Filter.switch? (w : Filter) (k : Key) : Option Switch :=
  match k.code with
  | .tab =>
      if w.options.isMulti then w.matching[w.position.cursor]?.map fun m => .one m.index else none
  | _ => none

/-- What a key switches in an open widget. -/
def keySwitch? (k : Key) : Widget → Option Switch
  | .choose w => w.switch? k
  | .filter w => w.switch? k
  | _ => none

/-- What a call switches: only keys that are pressed while the widget is open do. -/
def switch? (w : Widget) : Call → Option Switch
  | .message _ (.key k) => if w.isDone || !k.isPress then none else w.keySwitch? k
  | _ => none

/-- What calls switch, in order. -/
def switches (w : Widget) : List Call → List Switch
  | [] => []
  | c :: calls => (w.switch? c).toList ++ (w.call c).switches calls

theorem switches_append (w : Widget) (a b : List Call) :
    w.switches (a ++ b) = w.switches a ++ (w.after a).switches b := by
  induction a generalizing w with
  | nil => rfl
  | cons c a ih => rw [List.cons_append, switches, ih, switches, List.append_assoc]; rfl

section

variable {P : List Switch → Widget → Prop}
  (hkey : ∀ past w tree k, P past w → P (past ++ (w.keySwitch? k).toList) (w.handleKey tree k))
  (htick : ∀ past w, P past w → P past w.tick.1)
  (hfinish : ∀ past w output, P past w → P past (w.finish output))
  (hsize : ∀ past w width height, P past w → P past (w.setSize width height))

include hkey htick hfinish hsize

theorem call_switches {past : List Switch} {w : Widget} (h : P past w) (c : Call) :
    P (past ++ (w.switch? c).toList) (w.call c) := by
  have hnone {w' : Widget} (h : P past w') : P (past ++ []) w' := by
    rwa [List.append_nil]
  rcases c with _ | ⟨tree, m⟩ | ⟨width, height⟩
  · exact hnone h
  · rw [Widget.call]
    fun_cases Widget.update tree m w
    · next hdone =>
      cases m <;> simpa [switch?, hdone] using h
    · next hdone k hpress => simpa [switch?, hdone, hpress] using hkey past w tree k h
    · next hdone k hpress => simpa [switch?, hpress] using h
    · exact hnone (htick past w h)
    · exact hnone (hfinish past w _ h)
  · exact hnone (hsize past w width height h)

/-- What each event keeps in step with what it switches stays so over a history. -/
theorem after_switches {past : List Switch} {w : Widget} (h : P past w) (calls : List Call) :
    P (past ++ w.switches calls) (w.after calls) := by
  induction calls generalizing past w with
  | nil => rwa [switches, List.append_nil]
  | cons c calls ih =>
    rw [switches, ← List.append_assoc]
    exact ih (call_switches hkey htick hfinish hsize h c)

end

end Widget
end TerminalDialogs
