import TerminalDialogs.Proofs.Widget.Focus
import TerminalDialogs.Proofs.Widget.Switched

/-!
# What a choice yields

Where several items may be chosen a choice yields those that are on, in the order of switching,
or in the order of the list if that is asked for.  Where only one may be chosen, and where nothing
is on, it yields the item under the cursor.  Which positions are on and in which order is told by
the ledger of what was switched, the preselected item first (`chosen_in_order`).

A key changes what is on as far as it switches something (`Choose.toggles_handleKey`), so what is
on after any calls is what the history makes of it (`Choosing`).
-/

namespace TerminalDialogs

theorem Key.code_of_isCancel {k : Key} (h : k.isCancel = true) :
    k.code = .escape ∨ k.code = .char 'c' := by
  rw [isCancel, Bool.or_eq_true_iff, Bool.and_eq_true_iff] at h
  exact h.imp beq_iff_eq.mp fun h => beq_iff_eq.mp h.1

namespace Widget
namespace Choose

/-! ## Keys -/

variable {w : Choose} {k : Key}

theorem toggles_toggleAll (w : Choose) :
    w.toggleAll.toggles = w.toggles.apply w.options.itemLimit (.all w.count) := by
  rw [toggleAll, Toggles.apply]
  split
  · rfl
  · rfl

theorem toggles_toggleCurrent (w : Choose) : w.toggleCurrent.toggles =
    if w.position.cursor < w.count then
      w.toggles.apply w.options.itemLimit (.one w.position.cursor)
    else w.toggles := by
  rw [toggleCurrent]
  split
  · rfl
  · rfl

/-- What a key does to what is on is what it switches. -/
theorem toggles_handleKey (w : Choose) (k : Key) : (w.handleKey k).toggles =
    (w.switch? k).toList.foldl (Toggles.apply w.options.itemLimit) w.toggles := by
  have hcurrent {code : KeyCode} (hcode : k.code = code)
      (hswitches : code ∈ [.char ' ', .tab, .char 'x']) (hmulti : w.options.isMulti = true) :
      w.toggleCurrent.toggles =
        (w.switch? k).toList.foldl (Toggles.apply w.options.itemLimit) w.toggles := by
    rw [toggles_toggleCurrent]
    simp only [List.mem_cons, List.not_mem_nil, or_false] at hswitches
    rcases hswitches with rfl | rfl | rfl
    all_goals
      simp only [switch?, hcode, hmulti, Bool.true_and, decide_eq_true_eq]
      split
      · rfl
      · rfl
  fun_cases Choose.handleKey w k
  case case1 hcancel =>
    rcases Key.code_of_isCancel hcancel with hcode | hcode
    · simp [switch?, hcode]
    · simp [switch?, hcode]
  case case12 hcode hall =>
    rw [toggles_toggleAll]
    simp only [switch?, hcode, hall]
    rfl
  case case14 hcode hmulti => exact hcurrent hcode (by decide) hmulti
  case case16 hcode hmulti => exact hcurrent hcode (by decide) hmulti
  case case18 hcode hmulti => exact hcurrent hcode (by decide) hmulti
  all_goals simp [switch?, move, *]

/-- All items are switched only where any number of them may be chosen. -/
theorem allowed_of_switch? {s : Switch} (h : w.switch? k = some s) :
    s.Allowed w.options.items.length w.options.itemLimit := by
  revert h
  fun_cases Choose.switch? w k
  case case1 hall =>
    rintro ⟨⟩
    obtain ⟨-, hnolimit⟩ := Bool.and_eq_true_iff.mp hall
    exact ⟨rfl, by rw [Options.Choose.itemLimit, if_pos hnolimit]⟩
  case case3 hcurrent | case5 hcurrent | case7 hcurrent =>
    rintro ⟨⟩
    show w.position.cursor < w.count
    exact of_decide_eq_true (Bool.and_eq_true_iff.mp hcurrent).2
  all_goals exact nofun

theorem switch?_of_single (h : w.options.isMulti = false) : w.switch? k = none := by
  have hnolimit : w.options.noLimit = false := (Bool.or_eq_false_iff.mp h).1
  fun_cases Choose.switch? w k
  all_goals simp_all

end Choose

/-! ## Histories -/

/-- What is switched when a choice is made: the preselected item. -/
def Choose.opening (o : Options.Choose) : List Switch :=
  if o.isMulti then (preselected? o).toList.map .one else []

/-- A choice with some options and some history: what is on is what the history makes of it. -/
structure Choosing (o : Options.Choose) (past : List Switch) (w : Choose) : Prop where
  options_eq : w.options = o
  inside : w.pane.Placed
  tracks : w.toggles.Tracks o.items.length o.itemLimit o.isMulti past

namespace Choosing

variable {o : Options.Choose} {past : List Switch} {w : Choose}

theorem handleKey (h : Choosing o past w) (k : Key) :
    Choosing o (past ++ (w.switch? k).toList) (w.handleKey k) := by
  obtain rfl := h.options_eq
  refine ⟨(w.fixed_handleKey k).1, (w.follows_handleKey k).placed h.inside, ?_⟩
  rw [Choose.toggles_handleKey]
  exact h.tracks.append (fun s hs => Choose.allowed_of_switch? hs) Choose.switch?_of_single

theorem setSize (h : Choosing o past w) (width height : Nat) :
    Choosing o past (w.setSize width height) :=
  ⟨h.options_eq, (ListCursor.Placed.shown_reveal h.inside (listRows_pos _ _ _)).placed, h.tracks⟩

theorem start (o : Options.Choose) (p : Modal.Palette) :
    Choosing o (Choose.opening o) (.make o p) := by
  refine ⟨Choose.options_make o p, Choose.placed_make o p, ?_, fun s hs => ?_, fun hsingle => ?_⟩
  · rw [Choose.opening, Choose.make_eq]
    rcases Choose.preselected? o with _ | i
    all_goals
      dsimp only
      split
      · rfl
      · rfl
  · rw [Choose.opening] at hs
    split at hs
    · obtain ⟨i, hi, rfl⟩ := List.mem_map.mp hs
      exact Choose.preselected_lt (Option.mem_toList.mp hi)
    · exact absurd hs List.not_mem_nil
  · rw [Choose.opening, hsingle]
    rfl

/-- What is on after any calls is what was switched. -/
theorem after (o : Options.Choose) (p : Modal.Palette) (calls : List Call) :
    ∃ w, (Widget.choose (.make o p)).after calls = .choose w ∧
      Choosing o (Choose.opening o ++ (Widget.choose (.make o p)).switches calls) w := by
  refine after_switches (P := fun past w => ∃ choice, w = .choose choice ∧ Choosing o past choice)
    ?_ ?_ ?_ ?_ ⟨_, rfl, start o p⟩ calls
  · rintro past _ tree k ⟨choice, rfl, h⟩
    exact ⟨_, rfl, h.handleKey k⟩
  · rintro past _ ⟨choice, rfl, h⟩
    exact ⟨_, rfl, h⟩
  · rintro past _ output ⟨choice, rfl, h⟩
    exact ⟨_, rfl, h⟩
  · rintro past _ width height ⟨choice, rfl, h⟩
    exact ⟨_, rfl, h.setSize width height⟩

end Choosing

/-! ## What is returned -/

namespace Choose

/-- The positions of the items that are returned. -/
def returned (w : Choose) : List Nat :=
  if w.toggles.order = [] then if w.options.items = [] then [] else [w.position.cursor]
  else if w.options.ordered then
    (List.range w.options.items.length).filter (· ∈ w.toggles.order)
  else w.toggles.order

end Choose

/-- What a choice with some options has come to after some history. -/
structure Chosen (o : Options.Choose) (past : List Switch) (w : Choose) : Prop where
  options_eq : w.options = o
  /-- What is on, and in which order. -/
  kept : w.toggles.Kept o.items.length o.itemLimit past
  /-- Where one item may be chosen nothing is ever on. -/
  single : o.isMulti = false → w.toggles.order = []
  /-- The cursor stands on an item, if there is one. -/
  inside : o.items ≠ [] → w.position.cursor < o.items.length
  /-- The items that are returned are those at the positions that are. -/
  chosen : w.chosenItems.map some = w.returned.map fun i => o.items[i]?

theorem map_some_filterMap {α : Type} {items : List α} {positions : List Nat}
    (h : ∀ i ∈ positions, i < items.length) :
    (positions.filterMap fun i => items[i]?).map some = positions.map fun i => items[i]? := by
  induction positions with
  | nil => rfl
  | cons i positions ih =>
    rw [List.forall_mem_cons] at h
    rw [List.filterMap_cons, List.getElem?_eq_getElem h.1, List.map_cons, List.map_cons, ih h.2,
      List.getElem?_eq_getElem h.1]

theorem Choosing.chosen {o : Options.Choose} {past : List Switch} {w : Choose}
    (h : Choosing o past w) : Chosen o past w := by
  have hkept := h.tracks.kept
  obtain rfl := h.options_eq
  have hinside : w.options.items ≠ [] → w.position.cursor < w.options.items.length :=
    ListCursor.Placed.cursor_lt h.inside
  refine ⟨rfl, hkept, h.tracks.order_nil, hinside, ?_⟩
  rw [Choose.chosenItems, Choose.returned, Toggles.isEmpty, Choose.chosen]
  by_cases hnone : w.toggles.order = []
  · rw [hnone, if_pos rfl, if_pos List.isEmpty_nil]
    split
    · next hitems => rw [hitems]; rfl
    · next hitems =>
      rw [List.map_singleton, List.getElem?_eq_getElem (hinside hitems)]
      rfl
  · rw [if_neg hnone, if_neg (mt List.isEmpty_iff.mp hnone), hkept.sorted_eq]
    split
    · exact map_some_filterMap fun i hi => List.mem_range.mp (List.mem_of_mem_filter hi)
    · exact map_some_filterMap hkept.valid

/-- **A choice yields what was chosen, in the order in which it was chosen**, whatever the options
were and whatever was done to it. -/
theorem chosen_in_order (o : Options.Choose) (p : Modal.Palette) (calls : List Call) :
    let start := Widget.choose (.make o p)
    ∃ w, start.after calls = .choose w ∧ Chosen o (Choose.opening o ++ start.switches calls) w ∧
      (start.after calls).result =
        if (start.after calls).isCancelled then .error .cancelled
        else .ok (.list w.chosenItems) := by
  obtain ⟨w, hw, hchoosing⟩ := Choosing.after o p calls
  exact ⟨w, hw, hchoosing.chosen, by rw [hw]; rfl⟩

end Widget
end TerminalDialogs
