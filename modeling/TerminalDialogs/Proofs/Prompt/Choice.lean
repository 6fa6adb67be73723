import TerminalDialogs.Proofs.Prompt.Lines
import TerminalDialogs.Proofs.Prompt.Picks
import TerminalDialogs.Proofs.Widget.Chosen

/-!
# Two ways to choose

Several items can be chosen from a list by switching them on, one after the other, or by typing
their numbers in one line.  Both come to the items at the same positions in the same order, as long
as the order is that of the choice.

The order of the list is another matter.  A widget sorts the positions (`switched`), while a prompt
sorts the items that it has taken out, by the place where each first occurs in the list (`typed`).
An item that occurs twice is sorted by its first place there, whichever was meant.  So the two agree
if and only if of any two positions that are chosen the first places are in the same order
(`typed_eq_switched_iff`), which they are if no item occurs twice.
-/

namespace TerminalDialogs
namespace Prompt

variable {o : Options.Choose} {items : List Text} {picks : List Nat} {line : Text}

/-! ## Typing numbers -/

/-- The numbers of some positions in one line. -/
def numbers (picks : List Nat) : Text :=
  Text.join ", ".toList (picks.map fun i => Text.ofNat (i + 1))

/-- A numeral holds no separator. -/
theorem Numeral.isSeparator_eq_false {n : Nat} {word : Text} (h : Numeral n word) :
    ∀ c ∈ word, isSeparator c = false := by
  intro c hc
  rcases h.mem hc with hdigit | rfl
  · rw [isSeparator, Bool.or_eq_false_iff, beq_eq_false_iff_ne, beq_eq_false_iff_ne]
    constructor
    · rintro rfl
      exact absurd hdigit (by decide)
    · rintro rfl
      exact absurd hdigit (by decide)
  · decide

theorem spells_numbers (h : ∀ i ∈ picks, i + 1 < numberLimit) : Spells (numbers picks) picks := by
  induction picks with
  | nil => exact .nil
  | cons i picks ih =>
    rw [List.forall_mem_cons] at h
    have hi := numeral_ofNat h.1
    rcases picks with _ | ⟨j, picks⟩
    · rw [Spells, numbers, List.map_singleton, Text.join_singleton,
        Text.words_of_not_sep hi.isSeparator_eq_false hi.ne_nil]
      exact .cons hi .nil
    · have hline : numbers (i :: j :: picks) =
          Text.ofNat (i + 1) ++ ',' :: ' ' :: numbers (j :: picks) := by
        rw [numbers, List.map_cons, List.map_cons, Text.join_cons_cons, List.append_assoc]
        rfl
      rw [Spells, hline, Text.words_append_sep hi.isSeparator_eq_false hi.ne_nil (by decide),
        Text.words_cons_of_sep (by decide)]
      exact .cons hi (ih h.2)

/-- A line that spells positions holds nothing but digits, plus signs and separators. -/
theorem Spells.notMem (h : Spells line picks) {c : Char} (hsep : isSeparator c = false)
    (hdigit : c.isDigit = false) (hplus : c ≠ '+') : c ∉ line := by
  intro hc
  obtain ⟨word, hword, hmem⟩ := Text.exists_mem_words hc hsep
  obtain ⟨k, hk, rfl⟩ := List.mem_iff_getElem.mp hword
  have hlength := h.length_eq
  rcases (h.get hk (hlength ▸ hk)).mem hmem with hc | hc
  · exact absurd hc (by simp [hdigit])
  · exact hplus hc

/-! ## The order of the list -/

/-- The items that are returned for positions that were typed. -/
def typed (o : Options.Choose) (picks : List Nat) : List Text :=
  if o.ordered then inListOrder o.items (itemsAt o.items picks) else itemsAt o.items picks

/-- The items that are returned for positions that were switched on. -/
def switched (o : Options.Choose) (picks : List Nat) : List Text :=
  itemsAt o.items (if o.ordered then picks.mergeSort (· ≤ ·) else picks)

/-- Where the item at a position first occurs. -/
def firstPlace (items : List Text) (i : Nat) : Nat := items.idxOf (items.getD i [])

/-- The items that are chosen first occur in the order in which they were meant. -/
def FirstPlacesInOrder (items : List Text) (picks : List Nat) : Prop :=
  ∀ i ∈ picks, ∀ j ∈ picks, i < j → firstPlace items i ≤ firstPlace items j

theorem itemsAt_eq_map (h : ∀ i ∈ picks, i < items.length) :
    itemsAt items picks = picks.map (items.getD · []) := by
  refine List.map_injective_iff.mpr (Option.some_injective Text) ?_
  rw [itemsAt, Widget.map_some_filterMap h, List.map_map]
  refine List.map_congr_left fun i hi => ?_
  rw [List.getElem?_eq_getElem (h i hi), Function.comp_apply, List.getD_eq_getElem _ _ (h i hi)]

theorem pairwise_inListOrder (items found : List Text) :
    (inListOrder items found).Pairwise fun a b => items.idxOf a ≤ items.idxOf b := by
  have hsorted : (inListOrder items found).Pairwise fun a b =>
      decide (items.idxOf a ≤ items.idxOf b) = true := by
    refine List.pairwise_mergeSort (fun a b c hab hbc => ?_) (fun a b => ?_) found
    · rw [decide_eq_true_iff] at hab hbc ⊢
      exact hab.trans hbc
    · rw [Bool.or_eq_true, decide_eq_true_iff, decide_eq_true_iff]
      exact le_total _ _
  exact hsorted.imp of_decide_eq_true

/-- **Sorting the items is sorting the positions** if and only if the first places are in order. -/
theorem inListOrder_eq_iff (h : ∀ i ∈ picks, i < items.length) :
    inListOrder items (itemsAt items picks) = itemsAt items (picks.mergeSort (· ≤ ·)) ↔
      FirstPlacesInOrder items picks := by
  have hsorted : (picks.mergeSort (· ≤ ·)).Pairwise (· ≤ ·) := List.sortedLE_mergeSort.pairwise
  have hperm : (picks.mergeSort (· ≤ ·)).Perm picks := List.mergeSort_perm picks _
  have hvalid : ∀ i ∈ picks.mergeSort (· ≤ ·), i < items.length :=
    fun i hi => h i (hperm.mem_iff.mp hi)
  constructor
  · intro heq i hi j hj hij
    have hplaces : (picks.mergeSort (· ≤ ·)).Pairwise fun i j =>
        firstPlace items i ≤ firstPlace items j := by
      have hpairwise := pairwise_inListOrder items (itemsAt items picks)
      rw [heq, itemsAt_eq_map hvalid, List.pairwise_map] at hpairwise
      exact hpairwise
    -- Said so that it does not matter which of two members stands first.
    let Agree (i j : Nat) : Prop := (i < j → firstPlace items i ≤ firstPlace items j) ∧
      (j < i → firstPlace items j ≤ firstPlace items i)
    have : Std.Symm Agree := ⟨fun _ _ => And.symm⟩
    have hagree : (picks.mergeSort (· ≤ ·)).Pairwise Agree :=
      (hsorted.and hplaces).imp fun h => ⟨fun _ => h.2, fun hlt => absurd h.1 (Nat.not_le.mpr hlt)⟩
    exact (hagree.forall (hperm.mem_iff.mpr hi) (hperm.mem_iff.mpr hj) hij.ne).1 hij
  · intro hplaces
    have hplaces' : (itemsAt items (picks.mergeSort (· ≤ ·))).Pairwise fun a b =>
        items.idxOf a ≤ items.idxOf b := by
      rw [itemsAt_eq_map hvalid, List.pairwise_map]
      refine hsorted.imp_of_mem fun {i j} hi hj hij => ?_
      rcases hij.lt_or_eq with hlt | rfl
      · exact hplaces i (hperm.mem_iff.mp hi) j (hperm.mem_iff.mp hj) hlt
      · exact le_rfl
    have hitems : (inListOrder items (itemsAt items picks)).Perm
        (itemsAt items (picks.mergeSort (· ≤ ·))) :=
      (List.mergeSort_perm _ _).trans (hperm.symm.filterMap _)
    -- Items with the same first place are the same item.
    refine hitems.eq_of_pairwise (fun a b ha _ hab hba => ?_)
      (pairwise_inListOrder items _) hplaces'
    have hmem : a ∈ items := by
      obtain ⟨i, -, hi⟩ := List.mem_filterMap.mp (List.mem_mergeSort.mp ha)
      exact List.mem_of_getElem? hi
    exact (List.idxOf_inj hmem).mp (le_antisymm hab hba)

/-- Both ways agree as far as the first places are in order, and they are where it matters if no
item occurs twice. -/
theorem typed_eq_switched_iff (h : ∀ i ∈ picks, i < o.items.length) :
    typed o picks = switched o picks ↔ (o.ordered = true → FirstPlacesInOrder o.items picks) := by
  rw [typed, switched]
  cases hordered : o.ordered with
  | false => exact iff_of_true rfl nofun
  | true =>
    rw [if_pos rfl, if_pos rfl, inListOrder_eq_iff h]
    exact ⟨fun hplaces _ => hplaces, fun hplaces => hplaces rfl⟩

theorem firstPlacesInOrder_of_nodup (hitems : items.Nodup) (h : ∀ i ∈ picks, i < items.length) :
    FirstPlacesInOrder items picks := by
  have hplace {i : Nat} (hi : i ∈ picks) : firstPlace items i = i := by
    rw [firstPlace, List.getD_eq_getElem _ _ (h i hi), hitems.idxOf_getElem]
  intro i hi j hj hij
  rw [hplace hi, hplace hj]
  exact hij.le

/-! ## The two ways -/

/-- Positions that can be chosen in one go: there are some, each is one of the list, none comes
twice, and they are no more than may be chosen. -/
structure Choosable (o : Options.Choose) (picks : List Nat) : Prop where
  multi : o.isMulti = true
  some_picked : picks ≠ []
  nodup : picks.Nodup
  valid : ∀ i ∈ picks, i < o.items.length
  limited : o.itemLimit ≠ 0 → picks.length ≤ o.itemLimit

theorem Choosable.items_ne_nil (h : Choosable o picks) : o.items ≠ [] := by
  obtain ⟨i, hi⟩ := List.exists_mem_of_ne_nil picks h.some_picked
  exact List.ne_nil_of_length_pos (Nat.zero_lt_of_lt (h.valid i hi))

theorem answerChoose_of_spells (h : Choosable o picks) (hline : Spells line picks) :
    answerChoose o line = .done [] (.list (typed o picks)) := by
  have hpicks : Picks o.items.length o.isMulti o.itemLimit line picks := {
    named := ⟨picks, hline, h.some_picked, h.valid, (eraseDups_of_nodup h.nodup).symm⟩
    single := fun hsingle => absurd h.multi (by simp [hsingle])
    limited := fun hlimit => h.limited hlimit.ne' }
  rw [answerChoose, pick_eq_ok_iff.mpr hpicks]
  rfl

/-- A prompt returns what its first line chooses, whatever follows. -/
theorem result_run_choose (programs : Command.Programs) (tree : Files.Tree) {options : Json}
    (hread : Widget.readOptions .choose "ChooseOptions" Options.Choose.fields {} options = .ok o)
    (h : Choosable o picks) (hline : Spells line picks) (rest : Text) :
    (run programs tree .choose options (Utf8.encode (line ++ '\n' :: rest))).result =
      .ok (.list (typed o picks)) := by
  have hstart : start programs .choose options =
      .ok (.ask (heading o.title o.description ++ numbered o.items) (.choose o)) := by
    rw [start, hread]
    exact congrArg Except.ok (if_neg (mt List.isEmpty_iff.mp h.items_ne_nil))
  have hanswers : answers (line ++ '\n' :: rest) = line :: answers rest :=
    answers_cons (hline.notMem (by decide) (by decide) (by decide))
      (hline.notMem (by decide) (by decide) (by decide)) rest
  have hlines := lineText?_inputLines (line ++ '\n' :: rest)
  rw [hanswers, List.map_cons] at hlines
  obtain ⟨first, others, hinput, hfirst, -⟩ := List.map_eq_cons_iff.mp hlines
  rw [run, hstart, hinput]
  show (converse tree (.choose o) (first :: others)).result = _
  rw [converse, hfirst]
  dsimp only
  rw [answer, answerChoose_of_spells h hline]

/-- Positions that were off are switched on one after the other, if there is room. -/
theorem order_foldl_one {limit : Nat} {t : Toggles} (hnodup : (t.order ++ picks).Nodup)
    (hlimit : limit ≠ 0 → (t.order ++ picks).length ≤ limit) :
    ((picks.map Switch.one).foldl (Toggles.apply limit) t).order = t.order ++ picks := by
  induction picks generalizing t with
  | nil => exact (List.append_nil _).symm
  | cons i picks ih =>
    have hoff : t.contains i = false := by
      rw [Toggles.contains, List.contains_eq_mem, decide_eq_false_iff_not]
      exact fun hi => (List.nodup_append.mp hnodup).2.2 i hi i List.mem_cons_self rfl
    have hroom : limit = 0 ∨ t.count < limit := by
      rcases eq_or_ne limit 0 with hzero | hpos
      · exact .inl hzero
      · have hlength := hlimit hpos
        rw [List.length_append, List.length_cons] at hlength
        exact .inr (Nat.lt_of_lt_of_le (by rw [Toggles.count]; omega) hlength)
    have hon : t.toggle i limit = ⟨t.order ++ [i]⟩ := by
      rw [Toggles.toggle, if_neg (by simp [hoff]), if_pos hroom]
    have hshift : t.order ++ i :: picks = t.order ++ [i] ++ picks := by simp
    rw [hshift] at hnodup hlimit ⊢
    rw [List.map_cons, List.foldl_cons, Toggles.apply, hon]
    exact ih hnodup hlimit

/-- A widget returns what was switched on, by whatever calls. -/
theorem result_of_switches (h : Choosable o picks) (hpre : Widget.Choose.preselected? o = none)
    (p : Modal.Palette) {calls : List Widget.Call}
    (hcalls : (Widget.choose (.make o p)).switches calls = picks.map .one)
    (hcancelled : ((Widget.choose (.make o p)).after calls).isCancelled = false) :
    ((Widget.choose (.make o p)).after calls).result = .ok (.list (switched o picks)) := by
  obtain ⟨w, hw, hchoosing⟩ := Widget.Choosing.after o p calls
  have hopening : Widget.Choose.opening o = [] := by
    rw [Widget.Choose.opening, hpre, if_pos h.multi]
    rfl
  have horder : w.toggles.order = picks := by
    rw [hchoosing.tracks.eq, hopening, hcalls, List.nil_append]
    exact order_foldl_one (t := {}) h.nodup h.limited
  have hchosen : w.chosenItems = switched o picks := by
    rw [Widget.Choose.chosenItems, Toggles.isEmpty, horder, hchoosing.options_eq,
      if_neg (mt List.isEmpty_iff.mp h.some_picked), Widget.Choose.chosen, Toggles.sorted, horder,
      hchoosing.options_eq]
    rfl
  rw [hw] at hcancelled ⊢
  rw [Widget.result, if_neg (by simp [hcancelled])]
  exact congrArg (fun items => Except.ok (Widget.Value.list items)) hchosen

/-! ## Keys that switch positions on -/

/-- A key is pressed. -/
def press (tree : Files.Tree) (code : KeyCode) : Widget.Call := .message tree (.key { code })

/-- An open choice with some options whose cursor is at some place. -/
structure At (o : Options.Choose) (i : Nat) (w : Widget.Choose) : Prop where
  options_eq : w.options = o
  phase_eq : w.phase = .open
  cursor_eq : w.position.cursor = i

variable {w : Widget.Choose} {i : Nat} (tree : Files.Tree)

theorem At.isDone_eq (h : At o i w) : (Widget.choose w).isDone = false := by
  rw [Widget.isDone, Widget.phase, h.phase_eq]
  rfl

theorem At.call_press (h : At o i w) (code : KeyCode) :
    (Widget.choose w).call (press tree code) = .choose (w.handleKey { code }) := by
  rw [press, Widget.call, Widget.update, h.isDone_eq]
  rfl

theorem At.switch?_press (h : At o i w) (code : KeyCode) :
    (Widget.choose w).switch? (press tree code) = w.switch? { code } := by
  rw [press, Widget.switch?, h.isDone_eq]
  rfl

/-- Calls that lead an open choice from one place of the cursor to another, and what they switch. -/
def Leads (o : Options.Choose) (i : Nat) (calls : List Widget.Call) (s : List Switch) (j : Nat) :
    Prop :=
  ∀ w, At o i w → ∃ w', (Widget.choose w).after calls = .choose w' ∧ At o j w' ∧
    (Widget.choose w).switches calls = s

namespace Leads

variable {calls calls' : List Widget.Call} {s s' : List Switch} {j k : Nat}

theorem nil (o : Options.Choose) (i : Nat) : Leads o i [] [] i := fun w h => ⟨w, rfl, h, rfl⟩

/-- One key. -/
theorem press {code : KeyCode} (hat : ∀ w, At o i w → At o j (w.handleKey { code }))
    (hswitch : ∀ w, At o i w → (w.switch? { code }).toList = s) :
    Leads o i [Prompt.press tree code] s j := by
  intro w h
  refine ⟨_, h.call_press tree code, hat w h, ?_⟩
  rw [Widget.switches, h.switch?_press, hswitch w h]
  exact List.append_nil s

theorem append (h : Leads o i calls s j) (h' : Leads o j calls' s' k) :
    Leads o i (calls ++ calls') (s ++ s') k := by
  intro w hw
  obtain ⟨w', hafter, hw', hswitches⟩ := h w hw
  obtain ⟨w'', hafter', hw'', hswitches'⟩ := h' w' hw'
  refine ⟨w'', by rw [Widget.after_append, hafter, hafter'], hw'', ?_⟩
  rw [Widget.switches_append, hswitches, hafter, hswitches']

end Leads

theorem At.move (h : At o i w) (hi : i < o.items.length) (m : ListCursor.Motion) :
    At o (m.target o.items.length i) (w.move m) := by
  refine ⟨h.options_eq, h.phase_eq, ?_⟩
  have hne : w.count ≠ 0 := by
    rw [Widget.Choose.count, h.options_eq]
    omega
  rw [Widget.Choose.move, ListCursor.move, if_neg hne, ListCursor.cursor_reveal, h.cursor_eq,
    Widget.Choose.count, h.options_eq]

/-- The keys that switch one position: to the top, down to it, and the blank. -/
def switchOn (j : Nat) : List Widget.Call :=
  press tree .home :: (List.replicate j (press tree .down) ++ [press tree (.char ' ')])

theorem leads_down {n : Nat} (hn : i + n < o.items.length) :
    Leads o i (List.replicate n (press tree .down)) [] (i + n) := by
  induction n with
  | zero => exact Leads.nil o i
  | succ n ih =>
    rw [List.replicate_succ']
    refine (ih (by omega)).append (Leads.press tree (fun w h => ?_) fun w _ => rfl)
    have hdown := h.move (by omega) (.forward 1)
    rwa [ListCursor.Motion.target, Nat.min_eq_left (by omega)] at hdown

theorem leads_switchOn {j : Nat} (hmulti : o.isMulti = true) (hi : i < o.items.length)
    (hj : j < o.items.length) : Leads o i (switchOn tree j) [.one j] j := by
  have hhome : Leads o i [press tree .home] [] 0 :=
    Leads.press tree (fun w h => h.move hi .first) fun w _ => rfl
  have hdown : Leads o 0 (List.replicate j (press tree .down)) [] (0 + j) :=
    leads_down tree (by rwa [Nat.zero_add])
  rw [Nat.zero_add] at hdown
  have hblank : Leads o j [press tree (.char ' ')] [.one j] j := by
    have hswitches : ∀ w, At o j w → w.options.isMulti = true ∧ w.position.cursor < w.count :=
      fun w h => by rw [Widget.Choose.count, h.options_eq, h.cursor_eq]; exact ⟨hmulti, hj⟩
    refine Leads.press tree (fun w h => ?_) fun w h => ?_
    · have hkey : w.handleKey { code := .char ' ' } = w.toggleCurrent :=
        if_pos (hswitches w h).1
      rw [hkey, Widget.Choose.toggleCurrent, if_pos (hswitches w h).2]
      exact ⟨h.options_eq, h.phase_eq, h.cursor_eq⟩
    · have hswitch : w.switch? { code := .char ' ' } = some (.one w.position.cursor) := by
        refine if_pos ?_
        rw [Bool.and_eq_true, decide_eq_true_iff]
        exact hswitches w h
      rw [hswitch, h.cursor_eq]
      rfl
  exact hhome.append (hdown.append hblank)

theorem leads_picks (hmulti : o.isMulti = true) (hi : i < o.items.length)
    (hpicks : ∀ j ∈ picks, j < o.items.length) :
    ∃ k, Leads o i (picks.flatMap (switchOn tree)) (picks.map .one) k := by
  induction picks generalizing i with
  | nil => exact ⟨i, Leads.nil o i⟩
  | cons j picks ih =>
    rw [List.forall_mem_cons] at hpicks
    obtain ⟨k, hk⟩ := ih hpicks.1 hpicks.2
    exact ⟨k, (leads_switchOn tree hmulti hi hpicks.1).append hk⟩

/-- The keys that choose some positions. -/
def chooseAll (picks : List Nat) : List Widget.Call :=
  picks.flatMap (switchOn tree) ++ [press tree .enter]

/-- **Positions can be switched on in any order**, and what is on can be submitted. -/
theorem chooseAll_spec (h : Choosable o picks) (hpre : Widget.Choose.preselected? o = none)
    (p : Modal.Palette) :
    (Widget.choose (.make o p)).switches (chooseAll tree picks) = picks.map .one ∧
      ((Widget.choose (.make o p)).after (chooseAll tree picks)).phase = .submitted := by
  have hstart : At o 0 (.make o p) := by
    rw [Widget.Choose.make_eq, hpre]
    exact ⟨rfl, rfl, rfl⟩
  obtain ⟨k, hk⟩ := leads_picks tree (i := 0) h.multi
    (List.length_pos_of_ne_nil h.items_ne_nil) h.valid
  obtain ⟨w, hafter, hw, hswitches⟩ := hk _ hstart
  rw [chooseAll, Widget.switches_append, hswitches, Widget.after_append, hafter,
    Widget.after_cons, Widget.after_nil, hw.call_press, Widget.switches, hw.switch?_press]
  exact ⟨List.append_nil _, rfl⟩

/-! ## Both together -/

/-- **Typing numbers and switching items on agree up to first places.**  A prompt returns the items
that a line names, and a widget those that were switched on; they are the same list unless the order
of the list is asked for and an item stands in front of another one that first occurs earlier. -/
theorem typed_as_switched_iff (programs : Command.Programs) (tree : Files.Tree) {options : Json}
    (hread : Widget.readOptions .choose "ChooseOptions" Options.Choose.fields {} options = .ok o)
    (hpre : Widget.Choose.preselected? o = none) (h : Choosable o picks) (p : Modal.Palette) :
    (∀ line rest, Spells line picks →
        (run programs tree .choose options (Utf8.encode (line ++ '\n' :: rest))).result =
          .ok (.list (typed o picks))) ∧
      (o.items.length < numberLimit → Spells (numbers picks) picks) ∧
      (∃ w, Widget.make tree .choose options p = .ok w ∧
        (∀ calls, w.switches calls = picks.map .one → (w.after calls).phase = .submitted →
          (w.after calls).result = .ok (.list (switched o picks))) ∧
        ∃ calls, w.switches calls = picks.map .one ∧ (w.after calls).phase = .submitted) ∧
      (typed o picks = switched o picks ↔ (o.ordered = true → FirstPlacesInOrder o.items picks)) ∧
      (o.ordered = false ∨ o.items.Nodup → typed o picks = switched o picks) := by
  have hiff := typed_eq_switched_iff h.valid
  refine ⟨fun line rest hline => result_run_choose programs tree hread h hline rest,
    fun hcount => spells_numbers fun i hi => ?_, ⟨.choose (.make o p), ?_, ?_, ?_⟩, hiff, ?_⟩
  · exact Nat.lt_of_le_of_lt (h.valid i hi) hcount
  · rw [Widget.make, hread]
    rfl
  · intro calls hcalls hsubmitted
    refine result_of_switches h hpre p hcalls ?_
    rw [Widget.isCancelled, hsubmitted]
    rfl
  · exact ⟨_, chooseAll_spec tree h hpre p⟩
  · rintro (hunordered | hitems)
    · exact hiff.mpr fun hordered => absurd hordered (by simp [hunordered])
    · exact hiff.mpr fun _ => firstPlacesInOrder_of_nodup hitems h.valid

/-- A list in which an item occurs twice, any number of which is to be returned in the order of the
list. -/
def twice : Options.Choose :=
  { items := ["A".toList, "B".toList, "A".toList], noLimit := true, ordered := true }

/-- The same on the wire. -/
def twiceWire : Json :=
  .object [("options".toList, Json.ofTexts ["A".toList, "B".toList, "A".toList]),
    ("no_limit".toList, .bool true), ("ordered".toList, .bool true)]

theorem read_twiceWire :
    Widget.readOptions .choose "ChooseOptions" Options.Choose.fields {} twiceWire = .ok twice := by
  cbv

/-- An item that occurs twice does no harm as long as its first occurrence is meant. -/
theorem typed_as_switched_iff_first :
    let programs : Command.Programs := fun _ => .error (.file .notFound)
    Choosable twice [1, 0] ∧ FirstPlacesInOrder twice.items [1, 0] ∧
      (run programs {} .choose twiceWire (Utf8.encode "2, 1\n".toList)).result =
        .ok (.list ["A".toList, "B".toList]) ∧
      ∃ w calls, Widget.make {} .choose twiceWire .standalone = .ok w ∧
        w.switches calls = [.one 1, .one 0] ∧
        (w.after calls).result = .ok (.list ["A".toList, "B".toList]) := by
  have htyped : typed twice [1, 0] = ["A".toList, "B".toList] := by cbv
  have hplaces : FirstPlacesInOrder twice.items [1, 0] := by
    unfold FirstPlacesInOrder
    decide
  intro programs
  have h : Choosable twice [1, 0] := ⟨rfl, by decide, by decide, by decide, by decide⟩
  obtain ⟨hprompt, hspells, ⟨w, hw, hresult, calls, hcalls, hsubmitted⟩, hiff, -⟩ :=
    typed_as_switched_iff programs {} read_twiceWire rfl h .standalone
  refine ⟨h, hplaces, ?_, w, calls, hw, hcalls, ?_⟩
  · rw [← htyped]
    exact hprompt "2, 1".toList [] (hspells (by decide))
  · rw [← htyped, hiff.mpr fun _ => hplaces]
    exact hresult calls hcalls hsubmitted

/-- A prompt takes the last of three items for the first one, to which it is equal. -/
theorem typed_ne_switched :
    let programs : Command.Programs := fun _ => .error (.file .notFound)
    (run programs {} .choose twiceWire (Utf8.encode "2, 3\n".toList)).result =
        .ok (.list ["A".toList, "B".toList]) ∧
      ∃ w calls, Widget.make {} .choose twiceWire .standalone = .ok w ∧
        w.switches calls = [.one 1, .one 2] ∧ (w.after calls).phase = .submitted ∧
        (w.after calls).result = .ok (.list ["B".toList, "A".toList]) := by
  have htyped : typed twice [1, 2] = ["A".toList, "B".toList] := by cbv
  have hswitched : switched twice [1, 2] = ["B".toList, "A".toList] := by cbv
  intro programs
  have h : Choosable twice [1, 2] := ⟨rfl, by decide, by decide, by decide, by decide⟩
  obtain ⟨hcalls, hsubmitted⟩ := chooseAll_spec {} h rfl .standalone
  refine ⟨?_, .choose (.make twice .standalone), _, ?_, hcalls, hsubmitted, ?_⟩
  · rw [← htyped]
    exact result_run_choose programs {} read_twiceWire h (spells_numbers (by decide)) []
  · rw [Widget.make, read_twiceWire]
    rfl
  · rw [← hswitched]
    refine result_of_switches h rfl .standalone hcalls ?_
    rw [Widget.isCancelled, hsubmitted]
    rfl

end Prompt
end TerminalDialogs
