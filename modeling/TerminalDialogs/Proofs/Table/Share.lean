import Mathlib
import TerminalDialogs.Table.Columns

/-!
# What columns get

Columns that share some room use it up, unless they want less, and no column gets more than it
wants (`sum_share`, `share_le`).  So columns that do not fit into a table fill it: the last one ends
where the room does (`layOut_fills`).

Each step of sharing keeps this.  A run stands among all columns (`Run.Among`), what its columns
gain is taken from the room, and it grows no further than the first of its columns that has what it
wants.  This column is the progress that a step makes, so the steps do not run out before the room
does.
-/

namespace TerminalDialogs
namespace Table

variable {columns before : List Sharer} {r : Run} {steps room places : Nat}

/-! ## Runs -/

/-- A run of columns stands among them. -/
structure Run.Among (columns : List Sharer) (r : Run) : Prop where
  columns_eq : r.before ++ r.columns ++ r.after = columns
  nonempty : r.columns ≠ []
  short : ∀ c ∈ r.columns, c.isShort = true

theorem among_of_mem_runs (h : r ∈ runs before columns) : r.Among (before ++ columns) := by
  induction columns generalizing before with
  | nil => exact absurd h List.not_mem_nil
  | cons c columns ih =>
    have hlater (h : r ∈ runs (before ++ [c]) columns) : r.Among (before ++ c :: columns) := by
      rw [List.append_cons]
      exact ih h
    rw [runs] at h
    split at h
    · next hstart =>
      rcases List.mem_cons.mp h with rfl | h
      · have hc : c.isShort = true := (Bool.and_eq_true _ _ ▸ hstart).1
        refine ⟨?_, ?_, fun d hd => List.mem_takeWhile_imp hd⟩
        · dsimp only
          rw [List.append_assoc, List.takeWhile_append_dropWhile]
        · dsimp only
          rw [List.takeWhile_cons_of_pos hc]
          exact List.cons_ne_nil _ _
      · exact hlater h
    · exact hlater h

/-- Where a column wants more there is a run. -/
theorem runs_ne_nil (hbefore : before.getLast?.any Sharer.isShort = false)
    (h : ∃ c ∈ columns, c.isShort = true) : runs before columns ≠ [] := by
  induction columns generalizing before with
  | nil => exact absurd h (by simp)
  | cons c columns ih =>
    rw [runs]
    split
    · exact List.cons_ne_nil _ _
    · next hstart =>
      have hc : ¬ c.isShort = true := by
        rw [hbefore, Bool.not_false, Bool.and_true] at hstart
        exact hstart
      refine ih ?_ ?_
      · rw [List.getLast?_concat, Option.any_some]
        exact Bool.eq_false_iff.mpr hc
      · obtain ⟨d, hd, hshort⟩ := h
        exact ⟨d, (List.mem_cons.mp hd).resolve_left fun h => hc (h ▸ hshort), hshort⟩

theorem nextRun?_cases (rs : List Run) :
    nextRun? rs = none ∧ rs = [] ∨ ∃ r ∈ rs, nextRun? rs = some r := by
  induction rs using List.reverseRecOn with
  | nil => exact .inl ⟨rfl, rfl⟩
  | append_singleton rs s ih =>
    right
    rw [nextRun?, List.foldl_append, ← nextRun?, List.foldl_cons, List.foldl_nil]
    split
    · exact ⟨s, List.mem_append_right _ (List.mem_singleton_self s), rfl⟩
    · next hbest =>
      rcases ih with ⟨hnone, -⟩ | ⟨r, hr, hnext⟩
      · rw [hnone] at hbest
        exact absurd rfl hbest
      · exact ⟨r, List.mem_append_left _ hr, hnext⟩

/-- A run grows next, as long as a column wants more. -/
theorem nextRun?_runs (columns : List Sharer) :
    nextRun? (runs [] columns) = none ∧ columns.countP Sharer.isShort = 0 ∨
      ∃ r, nextRun? (runs [] columns) = some r ∧ r.Among columns := by
  rcases nextRun?_cases (runs [] columns) with ⟨hnone, hnil⟩ | ⟨r, hr, hnext⟩
  · refine .inl ⟨hnone, List.countP_eq_zero.mpr fun c hc hshort => ?_⟩
    exact runs_ne_nil rfl ⟨c, hc, hshort⟩ hnil
  · exact .inr ⟨r, hnext, among_of_mem_runs hr⟩

/-! ## Growth -/

namespace Run.Among

/-- A run can grow as far as one of its columns wants, and no column of it wants less. -/
theorem reach_spec (h : r.Among columns) :
    (∃ c ∈ r.columns, c.lack = r.reach) ∧ ∀ c ∈ r.columns, r.reach ≤ c.lack := by
  have hne : r.columns.map Sharer.lack ≠ [] := fun hnil => h.nonempty (List.map_eq_nil_iff.mp hnil)
  obtain ⟨n, hn⟩ := Option.isSome_iff_exists.mp (List.isSome_min?_of_ne_nil hne)
  obtain ⟨hmem, hle⟩ := List.min?_eq_some_iff.mp hn
  rw [Run.reach, hn, Option.getD_some]
  exact ⟨List.mem_map.mp hmem, fun c hc => hle _ (List.mem_map_of_mem hc)⟩

theorem sum_has_grown (h : r.Among columns) (places : Nat) :
    ((r.grown places).map Sharer.has).sum =
      (columns.map Sharer.has).sum + places * r.columns.length := by
  have hgain : ((r.columns.map (·.gain places)).map Sharer.has).sum =
      (r.columns.map Sharer.has).sum + places * r.columns.length := by
    induction r.columns with
    | nil => rfl
    | cons c columns ih =>
      have hc : (c.gain places).has = c.has + places := rfl
      simp only [List.map_cons, List.sum_cons, ih, hc, List.length_cons, Nat.mul_succ]
      omega
  rw [← h.columns_eq, Run.grown]
  simp only [List.map_append, List.sum_append, hgain]
  omega

theorem sum_lack_grown (h : r.Among columns) (hplaces : ∀ c ∈ r.columns, places ≤ c.lack) :
    ((r.grown places).map Sharer.lack).sum + places * r.columns.length =
      (columns.map Sharer.lack).sum := by
  have hgain : ((r.columns.map (·.gain places)).map Sharer.lack).sum +
      places * r.columns.length = (r.columns.map Sharer.lack).sum := by
    generalize r.columns = run at hplaces
    induction run with
    | nil => rfl
    | cons c run ih =>
      rw [List.forall_mem_cons] at hplaces
      have hc : (c.gain places).lack + places = c.lack := by
        have hle := hplaces.1
        simp only [Sharer.lack, Sharer.gain] at hle ⊢
        omega
      have hrun := ih hplaces.2
      simp only [List.map_cons, List.sum_cons, List.length_cons, Nat.mul_succ]
      omega
  rw [← h.columns_eq, Run.grown]
  simp only [List.map_append, List.sum_append]
  omega

/-- Growing as far as it can, a run gives some column what it wants. -/
theorem countP_grown_lt (h : r.Among columns) :
    (r.grown r.reach).countP Sharer.isShort < columns.countP Sharer.isShort := by
  obtain ⟨⟨c, hc, hlack⟩, -⟩ := h.reach_spec
  have hbefore : r.columns.countP Sharer.isShort = r.columns.length :=
    List.countP_eq_length.mpr h.short
  have hafter : (r.columns.map (·.gain r.reach)).countP Sharer.isShort < r.columns.length := by
    rw [← List.length_map fun c : Sharer => c.gain r.reach]
    refine Nat.lt_of_le_of_ne List.countP_le_length fun hall => ?_
    have hshort := List.countP_eq_length.mp hall _ (List.mem_map_of_mem hc)
    simp only [Sharer.isShort, decide_eq_true_iff, Sharer.gain, ← hlack, Sharer.lack] at hshort
    omega
  rw [← h.columns_eq, Run.grown]
  simp only [List.countP_append]
  omega

theorem map_wants_grown (h : r.Among columns) (places : Nat) :
    (r.grown places).map Sharer.wants = columns.map Sharer.wants := by
  rw [← h.columns_eq, Run.grown]
  simp only [List.map_append, List.map_map, Function.comp_def, Sharer.gain]

theorem sum_split (h : r.Among columns) (room : Nat) :
    (r.split room).sum = ((columns.map Sharer.has).sum + room) * r.columns.length := by
  have hparts (cs : List Sharer) (n extra : Nat) : (cs.map fun c => c.has * n + extra).sum =
      (cs.map Sharer.has).sum * n + cs.length * extra := by
    induction cs with
    | nil => simp
    | cons c cs ih =>
      simp only [List.map_cons, List.sum_cons, ih, List.length_cons, Nat.add_mul, Nat.one_mul]
      omega
  have hbefore := hparts r.before r.columns.length 0
  have hafter := hparts r.after r.columns.length 0
  have hrun := hparts r.columns r.columns.length room
  rw [← h.columns_eq, Run.split]
  simp only [List.map_append, List.sum_append, Nat.add_zero, Nat.mul_zero, Nat.add_mul] at *
  rw [hbefore, hafter, hrun, Nat.mul_comm room]
  omega

/-- No column gets more than it wants when less is left than the run could take. -/
theorem split_le (h : r.Among columns) (hwants : ∀ c ∈ columns, c.has ≤ c.wants)
    (hroom : room < r.reach * r.columns.length) :
    List.Forall₂ (fun width wants => width ≤ wants * r.columns.length) (r.split room)
      (columns.map Sharer.wants) := by
  have hparts (cs : List Sharer) (extra : Nat)
      (hcs : ∀ c ∈ cs, c.has * r.columns.length + extra ≤ c.wants * r.columns.length) :
      List.Forall₂ (fun width wants => width ≤ wants * r.columns.length)
        (cs.map fun c => c.has * r.columns.length + extra) (cs.map Sharer.wants) := by
    rw [List.forall₂_map_left_iff, List.forall₂_map_right_iff, List.forall₂_same]
    exact hcs
  have hrest {c : Sharer} (hc : c ∈ columns) :
      c.has * r.columns.length + 0 ≤ c.wants * r.columns.length :=
    Nat.mul_le_mul_right _ (hwants c hc)
  rw [← h.columns_eq] at hrest ⊢
  rw [Run.split, List.map_append, List.map_append]
  refine List.rel_append (List.rel_append ?_ ?_) ?_
  · exact hparts r.before 0 fun c hc => hrest (by simp [hc])
  · refine hparts r.columns room fun c hc => ?_
    have hreach : (c.has + r.reach) * r.columns.length ≤ c.wants * r.columns.length := by
      have hlack := h.reach_spec.2 c hc
      have hshort := h.short c hc
      rw [Sharer.isShort, decide_eq_true_iff] at hshort
      rw [Sharer.lack] at hlack
      exact Nat.mul_le_mul_right _ (by omega)
    rw [Nat.add_mul] at hreach
    omega
  · exact hparts r.after 0 fun c hc => hrest (by simp [hc])

end Run.Among

/-! ## Shares -/

/-- **The room is used up** by columns that want no less, given steps for all that want more. -/
theorem sum_share (hsteps : columns.countP Sharer.isShort ≤ steps)
    (hroom : room ≤ (columns.map Sharer.lack).sum) :
    (share steps room columns).2.sum =
      ((columns.map Sharer.has).sum + room) * (share steps room columns).1 := by
  have hdone {room : Nat} {columns : List Sharer} (hshort : columns.countP Sharer.isShort = 0)
      (hroom : room ≤ (columns.map Sharer.lack).sum) :
      (columns.map Sharer.has).sum = ((columns.map Sharer.has).sum + room) * 1 := by
    have hlack : (columns.map Sharer.lack).sum = 0 := by
      refine List.sum_eq_zero fun n hn => ?_
      obtain ⟨c, hc, rfl⟩ := List.mem_map.mp hn
      have hfull := List.countP_eq_zero.mp hshort c hc
      rw [Sharer.isShort, decide_eq_true_iff] at hfull
      rw [Sharer.lack]
      omega
    omega
  induction steps generalizing room columns with
  | zero => exact hdone (Nat.le_zero.mp hsteps) hroom
  | succ steps ih =>
    rw [share]
    rcases nextRun?_runs columns with ⟨hnone, hfull⟩ | ⟨r, hnext, hr⟩
    · rw [hnone]
      exact hdone hfull hroom
    · rw [hnext]
      dsimp only
      split
      · exact hr.sum_split room
      · next hneeded =>
        have hhas := hr.sum_has_grown r.reach
        have hlack := hr.sum_lack_grown hr.reach_spec.2
        have hfewer := hr.countP_grown_lt
        have hrest : (columns.map Sharer.has).sum + room =
            ((r.grown r.reach).map Sharer.has).sum + (room - r.reach * r.columns.length) := by
          omega
        rw [hrest]
        exact ih (by omega) (by omega)

/-- **No column gets more than it wants.** -/
theorem share_le (steps room : Nat) (hwants : ∀ c ∈ columns, c.has ≤ c.wants) :
    List.Forall₂ (fun width wants => width ≤ wants * (share steps room columns).1)
      (share steps room columns).2 (columns.map Sharer.wants) := by
  have hdone {columns : List Sharer} (hwants : ∀ c ∈ columns, c.has ≤ c.wants) :
      List.Forall₂ (fun width wants => width ≤ wants * 1) (columns.map Sharer.has)
        (columns.map Sharer.wants) := by
    rw [List.forall₂_map_left_iff, List.forall₂_map_right_iff, List.forall₂_same]
    exact fun c hc => (hwants c hc).trans_eq (Nat.mul_one _).symm
  induction steps generalizing room columns with
  | zero => exact hdone hwants
  | succ steps ih =>
    rw [share]
    rcases nextRun?_runs columns with ⟨hnone, -⟩ | ⟨r, hnext, hr⟩
    · rw [hnone]
      exact hdone hwants
    · rw [hnext]
      dsimp only
      split
      · next hneeded => exact hr.split_le hwants hneeded
      · rw [← hr.map_wants_grown r.reach]
        refine ih _ fun c hc => ?_
        rw [Run.grown] at hc
        rw [← hr.columns_eq] at hwants
        simp only [List.mem_append, List.mem_map] at hc hwants
        rcases hc with (hc | ⟨d, hd, rfl⟩) | hc
        · exact hwants c (.inl (.inl hc))
        · have hreach := hr.reach_spec.2 d hd
          have hd' := hwants d (.inl (.inr hd))
          rw [Sharer.lack] at hreach
          show d.has + r.reach ≤ d.wants
          omega
        · exact hwants c (.inr hc)

theorem share_unit_pos (steps room : Nat) (columns : List Sharer) :
    0 < (share steps room columns).1 := by
  induction steps generalizing room columns with
  | zero => exact Nat.one_pos
  | succ steps ih =>
    rw [share]
    rcases nextRun?_runs columns with ⟨hnone, -⟩ | ⟨r, hnext, hr⟩
    · rw [hnone]
      exact Nat.one_pos
    · rw [hnext]
      dsimp only
      split
      · exact List.length_pos_iff.mpr hr.nonempty
      · exact ih _ _

/-! ## Columns side by side -/

theorem roundHalfUp_mono {a b : Nat} (h : a ≤ b) (unit : Nat) :
    roundHalfUp a unit ≤ roundHalfUp b unit :=
  Nat.div_le_div_right (by omega)

theorem roundHalfUp_mul {unit : Nat} (hunit : 0 < unit) (n : Nat) :
    roundHalfUp (n * unit) unit = n := by
  have hsplit : 2 * (n * unit) + unit = unit + 2 * unit * n := by
    rw [Nat.mul_comm n, Nat.mul_assoc, Nat.add_comm]
  rw [roundHalfUp, hsplit, Nat.add_mul_div_left _ _ (by omega), Nat.div_eq_of_lt (by omega),
    Nat.zero_add]

/-- The last column ends behind all widths and gaps. -/
theorem getLast?_layOutFrom (unit position w : Nat) (widths : List Nat) :
    (layOutFrom unit position (w :: widths)).getLast?.map (fun e => e.start + e.width) =
      some (roundHalfUp (position + (w :: widths).sum + widths.length * unit) unit) := by
  induction widths generalizing position w with
  | nil =>
    have hle := roundHalfUp_mono (Nat.le_add_right position w) unit
    rw [layOutFrom, layOutFrom, List.getLast?_singleton, Option.map_some, List.sum_singleton,
      List.length_nil, Nat.zero_mul, Nat.add_zero, Nat.add_sub_cancel' hle]
  | cons v widths ih =>
    have hne : layOutFrom unit (position + w + unit) (v :: widths) ≠ [] := List.cons_ne_nil _ _
    have hend : position + w + unit + (v :: widths).sum + widths.length * unit =
        position + (w :: v :: widths).sum + (v :: widths).length * unit := by
      rw [List.sum_cons, List.sum_cons, List.sum_cons, List.length_cons, Nat.succ_mul]
      omega
    rw [layOutFrom, List.getLast?_cons_of_ne_nil hne, ih, hend]

theorem foldr_add_eq (widths : List Nat) (gaps : Nat) :
    widths.foldr (· + ·) gaps = widths.sum + gaps := by
  induction widths with
  | nil => exact (Nat.zero_add gaps).symm
  | cons w widths ih => rw [List.foldr_cons, ih, List.sum_cons, Nat.add_assoc]

/-- **Columns that do not fit fill the room**: the last one ends where the room does. -/
theorem layOut_fills {widths : List Nat} {available : Nat} (hgaps : widths.length - 1 < available)
    (hwide : available < widths.sum + (widths.length - 1)) :
    (layOut widths available).getLast?.map (fun e => e.start + e.width) = some available := by
  let columns := widths.map (Sharer.mk 0)
  let room := available - (widths.length - 1)
  have hhas : (columns.map Sharer.has).sum = 0 := by
    refine List.sum_eq_zero fun n hn => ?_
    obtain ⟨c, hc, rfl⟩ := List.mem_map.mp hn
    obtain ⟨w, -, rfl⟩ := List.mem_map.mp hc
    rfl
  have hlack : (columns.map Sharer.lack).sum = widths.sum := by
    rw [List.map_map]
    exact congrArg List.sum (List.map_id widths)
  have hsteps : columns.countP Sharer.isShort ≤ widths.length :=
    List.countP_le_length.trans_eq (List.length_map _)
  have hroom : room ≤ (columns.map Sharer.lack).sum := by omega
  have hwants : ∀ c ∈ columns, c.has ≤ c.wants := fun c hc => by
    obtain ⟨w, -, rfl⟩ := List.mem_map.mp hc
    exact Nat.zero_le w
  have hsum := sum_share hsteps hroom
  have hunit := share_unit_pos widths.length room columns
  have hlength : (share widths.length room columns).2.length = widths.length := by
    rw [(share_le widths.length room hwants).length_eq, List.length_map, List.length_map]
  rw [layOut, foldr_add_eq, if_neg (Nat.not_le_of_lt hwide), if_neg (Nat.not_le_of_lt hgaps)]
  show (layOutFrom (share widths.length room columns).1 0
    (share widths.length room columns).2).getLast?.map _ = _
  rw [hhas, Nat.zero_add] at hsum
  generalize share widths.length room columns = shared at hsum hunit hlength
  obtain ⟨unit, shares⟩ := shared
  cases shares with
  | nil =>
    have hnone : widths = [] := List.length_eq_zero_iff.mp hlength.symm
    rw [hnone] at hwide
    exact absurd hwide (Nat.not_lt_zero _)
  | cons w shares =>
    have hshares : shares.length = widths.length - 1 := by
      rw [← hlength, List.length_cons, Nat.add_sub_cancel]
    have hend : available * unit = 0 + (w :: shares).sum + shares.length * unit := by
      rw [Nat.zero_add, hsum, hshares, ← Nat.add_mul, Nat.sub_add_cancel (Nat.le_of_lt hgaps)]
    rw [getLast?_layOutFrom, ← hend, roundHalfUp_mul hunit]

/-- A narrow column between wide ones: one of these stays as narrow. -/
example : layOut [10, 2, 10] 16 = [⟨0, 2⟩, ⟨3, 2⟩, ⟨6, 10⟩] := by decide

end Table
end TerminalDialogs
