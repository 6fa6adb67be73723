import TerminalDialogs.Proofs.Widget.Chosen

/-!
# What a narrowed list yields

A list that is narrowed down by typing holds on to three things: the matches of the query, a
cursor among the matches, and positions among all items that are on.  They are kept in step.  The
matches are always those of the query as it stands (`Filter.Current`), whatever keys have edited
it; the cursor is on one of them; and what is on is what was switched, by the tab key only, however
often the matches have changed since (`Filter.toggles_handleKey`).

So what is yielded can be told from the query, the matches and the history
(`narrowed_consistently`).
-/

namespace TerminalDialogs

/-! ## Matches -/

namespace Fuzzy

variable {A : Arithmetic} {items : List Text} {query : Text} {fuzzy sort : Bool} {m : Ranked}

theorem index_lt_of_mem_survivors (h : m ∈ survivors A items query fuzzy) :
    m.index < items.length := by
  obtain ⟨⟨item, i⟩, hitem, hm⟩ := List.mem_filterMap.mp h
  have hlt : i < items.length := List.snd_lt_of_mem_zipIdx hitem
  split at hm
  · obtain rfl := Option.some.inj hm
    exact hlt
  · obtain ⟨_, -, rfl⟩ := Option.map_eq_some_iff.mp hm
    exact hlt

theorem index_lt_of_mem_rank (h : m ∈ rank A items query fuzzy sort) :
    m.index < items.length := by
  rw [rank] at h
  split at h
  · exact index_lt_of_mem_survivors (List.mem_mergeSort.mp h)
  · exact index_lt_of_mem_survivors h

theorem rank_nil (A : Arithmetic) (query : Text) (fuzzy sort : Bool) :
    rank A [] query fuzzy sort = [] := by
  rw [rank]
  split
  · exact List.mergeSort_nil
  · rfl

end Fuzzy

namespace Widget
namespace Filter

variable {w : Filter} {k : Key}

/-- The matches are those of the query. -/
def Current (w : Filter) : Prop :=
  w.matching =
    Fuzzy.rank .rounded w.options.items w.query.value w.options.fuzzy w.options.sort

theorem current_refresh (w : Filter) : w.refresh.Current := rfl

theorem Current.toggleCurrent (h : w.Current) : w.toggleCurrent.Current := by
  fun_cases Filter.toggleCurrent w
  · exact h
  · exact h

theorem Current.edit (h : w.Current) (k : Key) : (w.edit k).Current := by
  fun_cases Filter.edit w k
  · next heq =>
    show w.matching = Fuzzy.rank .rounded w.options.items (w.query.handleKey k).value _ _
    rw [heq]
    exact h
  · exact current_refresh _

theorem Current.handleKey (h : w.Current) (k : Key) : (w.handleKey k).Current := by
  fun_cases Filter.handleKey w k
  all_goals first
    | exact h
    | exact h.edit k
    | exact h.toggleCurrent

theorem current_make (o : Options.Filter) (p : Modal.Palette) : (make o p).Current := by
  fun_cases Filter.make o p
  · next hempty =>
    show [] = Fuzzy.rank .rounded o.items _ _ _
    rw [List.isEmpty_iff.mp hempty, Fuzzy.rank_nil]
  · exact current_refresh _

/-! ## What is on -/

theorem toggles_edit (w : Filter) (k : Key) : (w.edit k).toggles = w.toggles := by
  fun_cases Filter.edit w k
  · rfl
  · rfl

theorem toggles_toggleCurrent (w : Filter) : w.toggleCurrent.toggles =
    (w.matching[w.position.cursor]?.map fun m => Switch.one m.index).toList.foldl
      (Toggles.apply w.options.itemLimit) w.toggles := by
  rw [toggleCurrent]
  rcases w.matching[w.position.cursor]? with _ | m
  · rfl
  · rfl

theorem switch?_of_ne_tab (h : k.code ≠ .tab) : w.switch? k = none := by
  rw [switch?]
  split
  · contradiction
  · rfl

theorem switch?_of_single (h : w.options.isMulti = false) : w.switch? k = none := by
  rw [switch?, h]
  split
  · rfl
  · rfl

theorem toggles_handleKey_of_ne_tab (w : Filter) (h : k.code ≠ .tab) :
    (w.handleKey k).toggles = w.toggles := by
  fun_cases Filter.handleKey w k
  all_goals first
    | rfl
    | exact w.toggles_edit k
    | contradiction

/-- **What a key does to what is on is what it switches**; what is typed changes nothing. -/
theorem toggles_handleKey (w : Filter) (k : Key) : (w.handleKey k).toggles =
    (w.switch? k).toList.foldl (Toggles.apply w.options.itemLimit) w.toggles := by
  by_cases hcode : k.code = .tab
  · obtain ⟨code, ctrl, alt, shift, action⟩ := k
    obtain rfl : code = .tab := hcode
    rw [switch?]
    show (if w.options.isMulti = true then w.toggleCurrent else w.edit _).toggles = _
    split
    · exact w.toggles_toggleCurrent
    · exact w.toggles_edit _
  · rw [switch?_of_ne_tab hcode]
    exact w.toggles_handleKey_of_ne_tab hcode

theorem switch?_eq_some {s : Switch} (h : w.switch? k = some s) :
    k.code = .tab ∧ w.options.isMulti = true ∧
      ∃ m, w.matching[w.position.cursor]? = some m ∧ s = .one m.index := by
  rw [switch?] at h
  split at h
  · next hcode =>
    split at h
    · next hmulti =>
      obtain ⟨m, hm, rfl⟩ := Option.map_eq_some_iff.mp h
      exact ⟨hcode, hmulti, m, hm, rfl⟩
    · exact nomatch h
  · exact nomatch h

/-- What is switched when a list is made: in the order given, the positions that exist. -/
def opening (o : Options.Filter) : List Switch :=
  if o.isMulti then (o.selected.filter (· < o.items.length)).map .on else []

theorem preselected_eq (o : Options.Filter) :
    preselected o = Toggles.ofSwitches o.itemLimit (opening o) := by
  rw [preselected, opening]
  split
  · rw [Toggles.ofSwitches, List.foldl_map]
    rfl
  · rfl

theorem opening_nil {o : Options.Filter} (h : o.items = []) : opening o = [] := by
  rw [opening, h]
  split
  · rw [List.filter_eq_nil_iff.mpr fun i _ => by simp]
    rfl
  · rfl

theorem toggles_make (o : Options.Filter) (p : Modal.Palette) :
    (make o p).toggles = Toggles.ofSwitches o.itemLimit (opening o) := by
  fun_cases Filter.make o p
  · next hempty =>
    rw [opening_nil (List.isEmpty_iff.mp hempty)]
    rfl
  · exact preselected_eq o

end Filter

/-! ## Histories -/

/-- A narrowed list with some options and some history. -/
structure Narrowing (o : Options.Filter) (past : List Switch) (w : Filter) : Prop where
  options_eq : w.options = o
  current : w.Current
  inside : w.pane.Placed
  tracks : w.toggles.Tracks o.items.length o.itemLimit o.isMulti past

namespace Narrowing

variable {o : Options.Filter} {past : List Switch} {w : Filter}

theorem index_lt (h : Narrowing o past w) {m : Fuzzy.Ranked} (hm : m ∈ w.matching) :
    m.index < o.items.length := by
  rw [h.current, h.options_eq] at hm
  exact Fuzzy.index_lt_of_mem_rank hm

theorem handleKey (h : Narrowing o past w) (k : Key) :
    Narrowing o (past ++ (w.switch? k).toList) (w.handleKey k) := by
  have hindex {m : Fuzzy.Ranked} (hm : m ∈ w.matching) := h.index_lt hm
  obtain rfl := h.options_eq
  refine ⟨(w.fixed_handleKey k).1, h.current.handleKey k,
    (w.follows_handleKey k).placed h.inside, ?_⟩
  rw [Filter.toggles_handleKey]
  refine h.tracks.append (fun s hs => ?_) Filter.switch?_of_single
  obtain ⟨-, -, m, hm, rfl⟩ := Filter.switch?_eq_some hs
  exact hindex (List.mem_of_getElem? hm)

theorem setSize (h : Narrowing o past w) (width height : Nat) :
    Narrowing o past (w.setSize width height) :=
  ⟨h.options_eq, h.current,
    (ListCursor.Placed.shown_move h.inside (listRows_pos _ _ _) (.forward 0)).placed,
    h.tracks⟩

theorem start (o : Options.Filter) (p : Modal.Palette) :
    Narrowing o (Filter.opening o) (.make o p) := by
  refine ⟨(Filter.fixed_make o p).1, Filter.current_make o p, Filter.placed_make o p,
    Filter.toggles_make o p, fun s hs => ?_, fun hsingle => ?_⟩
  · rw [Filter.opening] at hs
    split at hs
    · obtain ⟨i, hi, rfl⟩ := List.mem_map.mp hs
      show i < o.items.length
      exact of_decide_eq_true (List.mem_filter.mp hi).2
    · exact absurd hs List.not_mem_nil
  · rw [Filter.opening, hsingle]
    rfl

/-- The list stays in step over any calls. -/
theorem after (o : Options.Filter) (p : Modal.Palette) (calls : List Call) :
    ∃ w, (Widget.filter (.make o p)).after calls = .filter w ∧
      Narrowing o (Filter.opening o ++ (Widget.filter (.make o p)).switches calls) w := by
  refine after_switches (P := fun past w => ∃ list, w = .filter list ∧ Narrowing o past list)
    ?_ ?_ ?_ ?_ ⟨_, rfl, start o p⟩ calls
  · rintro past _ tree k ⟨list, rfl, h⟩
    exact ⟨_, rfl, h.handleKey k⟩
  · rintro past _ ⟨list, rfl, h⟩
    exact ⟨_, rfl, h⟩
  · rintro past _ output ⟨list, rfl, h⟩
    exact ⟨_, rfl, h⟩
  · rintro past _ width height ⟨list, rfl, h⟩
    exact ⟨_, rfl, h.setSize width height⟩

end Narrowing

/-! ## What is returned -/

/-- A call by which the match under the cursor of a list is switched. -/
def Filter.Tabs (w : Filter) (c : Call) : Prop :=
  ∃ tree k m, c = .message tree (.key k) ∧ k.isPress = true ∧ k.code = .tab ∧
    w.phase.isDone = false ∧ w.options.isMulti = true ∧ w.matching[w.position.cursor]? = some m

/-- What a narrowed list with some options has come to after some history. -/
structure Narrowed (o : Options.Filter) (past : List Switch) (w : Filter) : Prop where
  options_eq : w.options = o
  /-- The matches are those of the query. -/
  matching_eq : w.matching = Fuzzy.rank .rounded o.items w.query.value o.fuzzy o.sort
  /-- The cursor stands on a match, if there is one. -/
  inside : w.matching ≠ [] → w.position.cursor < w.matching.length
  /-- What is on, and in which order. -/
  kept : w.toggles.Kept o.items.length o.itemLimit past
  /-- Where one item may be chosen nothing is ever on. -/
  single : o.isMulti = false → w.toggles.order = []
  /-- Nothing but the tab key on a match changes what is on. -/
  steady : ∀ c list, ¬ w.Tabs c → (Widget.filter w).call c = .filter list →
    list.toggles = w.toggles
  /-- The items that are on are returned. -/
  on : w.toggles.order ≠ [] → w.chosenItems.map some = w.toggles.order.map fun i => o.items[i]?
  /-- If none is on, the match under the cursor is returned. -/
  pointed : w.toggles.order = [] → ∀ m, w.matching[w.position.cursor]? = some m →
    w.chosenItems.map some = [o.items[m.index]?]
  /-- If nothing matches either, the query is returned, unless it is empty or only items may be. -/
  missed : w.toggles.order = [] → w.matching = [] →
    w.chosenItems = if o.strict = false ∧ w.query.value ≠ [] then [w.query.value] else []
  /-- If only items may be returned, only items are. -/
  strict : o.strict = true → ∀ s ∈ w.chosenItems, s ∈ o.items

theorem Filter.toggles_call {w list : Filter} {c : Call} (h : ¬ w.Tabs c)
    (hcall : (Widget.filter w).call c = .filter list) : list.toggles = w.toggles := by
  rcases c with _ | ⟨tree, m⟩ | ⟨width, height⟩
  · obtain rfl := Widget.filter.inj hcall
    rfl
  · rw [Widget.call] at hcall
    by_cases hdone : (Widget.filter w).isDone = true
    · rw [update_of_done hdone] at hcall
      obtain rfl := Widget.filter.inj hcall
      rfl
    rw [update_of_open hdone] at hcall
    rcases m with k | _ | output
    · by_cases hpress : k.isPress = true
      · simp only [hpress, if_true] at hcall
        obtain rfl := Widget.filter.inj hcall
        rw [toggles_handleKey]
        rcases hswitch : w.switch? k with _ | s
        · rfl
        · obtain ⟨hcode, hmulti, m, hm, -⟩ := switch?_eq_some hswitch
          exact absurd ⟨tree, k, m, rfl, hpress, hcode, Bool.eq_false_iff.mpr hdone, hmulti, hm⟩ h
      · simp only [hpress] at hcall
        obtain rfl := Widget.filter.inj hcall
        rfl
    · obtain rfl := Widget.filter.inj hcall
      rfl
    · obtain rfl := Widget.filter.inj hcall
      rfl
  · obtain rfl := Widget.filter.inj hcall
    rfl

namespace Narrowing

variable {o : Options.Filter} {past : List Switch} {w : Filter}

theorem cursor_lt (h : Narrowing o past w) (hne : w.matching ≠ []) :
    w.position.cursor < w.matching.length :=
  ListCursor.Placed.cursor_lt h.inside hne

theorem chosenItems_on (h : Narrowing o past w) (hon : w.toggles.order ≠ []) :
    w.chosenItems.map some = w.toggles.order.map fun i => o.items[i]? := by
  have hkept := h.tracks.kept
  obtain rfl := h.options_eq
  rw [Filter.chosenItems, Toggles.isEmpty, if_pos (by simpa using hon)]
  exact map_some_filterMap hkept.valid

theorem chosenItems_pointed (h : Narrowing o past w) (hon : w.toggles.order = [])
    {m : Fuzzy.Ranked} (hm : w.matching[w.position.cursor]? = some m) :
    w.chosenItems.map some = [o.items[m.index]?] := by
  have hlt := h.index_lt (List.mem_of_getElem? hm)
  obtain rfl := h.options_eq
  rw [Filter.chosenItems, Toggles.isEmpty, hon, if_neg (by simp), hm]
  dsimp only
  rw [List.getElem?_eq_getElem hlt]
  rfl

theorem chosenItems_missed (h : Narrowing o past w) (hon : w.toggles.order = [])
    (hnone : w.matching = []) : w.chosenItems =
      if o.strict = false ∧ w.query.value ≠ [] then [w.query.value] else [] := by
  obtain rfl := h.options_eq
  rw [Filter.chosenItems, Toggles.isEmpty, hon, hnone, if_neg (by simp)]
  simp

theorem mem_items_of_strict (h : Narrowing o past w) (hstrict : o.strict = true) {s : Text}
    (hs : s ∈ w.chosenItems) : s ∈ o.items := by
  have hmem (positions : List Nat) (hpositions : w.chosenItems.map some =
      positions.map fun i => o.items[i]?) : s ∈ o.items := by
    obtain ⟨i, -, hi⟩ := List.mem_map.mp (hpositions ▸ List.mem_map_of_mem hs)
    exact List.mem_of_getElem? hi
  by_cases hon : w.toggles.order = []
  · by_cases hnone : w.matching = []
    · rw [h.chosenItems_missed hon hnone, if_neg (by simp [hstrict])] at hs
      exact absurd hs List.not_mem_nil
    · obtain ⟨m, hm⟩ : ∃ m, w.matching[w.position.cursor]? = some m :=
        ⟨_, List.getElem?_eq_getElem (h.cursor_lt hnone)⟩
      exact hmem [m.index] (h.chosenItems_pointed hon hm)
  · exact hmem _ (h.chosenItems_on hon)

theorem narrowed (h : Narrowing o past w) : Narrowed o past w where
  options_eq := h.options_eq
  matching_eq := by
    rw [h.current, h.options_eq]
  inside := h.cursor_lt
  kept := h.tracks.kept
  single := h.tracks.order_nil
  steady _ _ := Filter.toggles_call
  on := h.chosenItems_on
  pointed hon _ := h.chosenItems_pointed hon
  missed := h.chosenItems_missed
  strict hstrict _ := h.mem_items_of_strict hstrict

end Narrowing

/-- **Query, matches, cursor and choice stay in step**, whatever the options were and whatever was
done, and what is yielded can be told from them. -/
theorem narrowed_consistently (o : Options.Filter) (p : Modal.Palette) (calls : List Call) :
    let start := Widget.filter (.make o p)
    ∃ w, start.after calls = .filter w ∧ Narrowed o (Filter.opening o ++ start.switches calls) w ∧
      (start.after calls).result =
        if (start.after calls).isCancelled then .error .cancelled
        else .ok (.list w.chosenItems) := by
  obtain ⟨w, hw, hnarrowing⟩ := Narrowing.after o p calls
  exact ⟨w, hw, hnarrowing.narrowed, by rw [hw]; rfl⟩

end Widget
end TerminalDialogs
