import Mathlib.Data.List.Basic
import TerminalDialogs.Options.Kinds

/-!
# Where the texts of options come from

The texts of a record of options are strings of the value that it was read from, or
empty.  So what holds of the empty text and of every string in a value holds of the
texts of the record (`Input.forall_texts`, and alike for the other kinds).

This is one argument for all kinds.  Reading a record applies fields one after the
other, in the order of the keys or of the array, and every field either puts a string
of the value into the record or no text at all (`readRecord_keeps`).
-/

namespace TerminalDialogs

/-- A string is somewhere in a value; the keys of objects do not count. -/
inductive Json.Holds : Json → Text → Prop where
  | string (s : Text) : Holds (.string s) s
  | element {elements : List Json} {j : Json} {s : Text} (hj : j ∈ elements) (h : Holds j s) :
      Holds (.array elements) s
  | member {members : List (Text × Json)} {key : Text} {j : Json} {s : Text}
      (hj : (key, j) ∈ members) (h : Holds j s) : Holds (.object members) s

/-- All strings in a value are as required. -/
def Json.All (T : Text → Prop) (j : Json) : Prop := ∀ s, j.Holds s → T s

namespace Json

variable {T : Text → Prop}

@[simp] theorem all_null : null.All T := fun _ h => nomatch h

@[simp] theorem all_bool (b : Bool) : (bool b).All T := fun _ h => nomatch h

@[simp] theorem all_number (n : Number) : (number n).All T := fun _ h => nomatch h

@[simp] theorem all_string {s : Text} : (string s).All T ↔ T s := by
  refine ⟨fun h => h s (.string s), fun h t ht => ?_⟩
  cases ht
  exact h

@[simp] theorem all_array {elements : List Json} :
    (array elements).All T ↔ ∀ j ∈ elements, j.All T := by
  refine ⟨fun h j hj s hs => h s (.element hj hs), fun h s hs => ?_⟩
  cases hs with
  | element hj hs => exact h _ hj s hs

@[simp] theorem all_object {members : List (Text × Json)} :
    (object members).All T ↔ ∀ member ∈ members, member.2.All T := by
  refine ⟨fun h member hmem s hs => h s (.member hmem hs), fun h s hs => ?_⟩
  cases hs with
  | member hmem hs => exact h _ hmem s hs

end Json

namespace Options

open Json (Mismatch)

variable {T : Text → Prop}

/-! ## Records -/

section Records

variable {σ α : Type} {Q : σ → Prop}

/-- A field keeps a property of the record, whatever value with strings as required
it is read from. -/
def Field.Keeps (T : Text → Prop) (Q : σ → Prop) (f : Field σ) : Prop :=
  ∀ (j : Json) (s s' : σ), j.All T → f.read j s = .ok s' → Q s → Q s'

theorem readMembers_keeps {fields : List (Field σ)} (hfields : ∀ f ∈ fields, f.Keeps T Q)
    {seen : List Text} {members : List (Text × Json)} (hj : (Json.object members).All T)
    {s s' : σ} (h : readMembers fields seen members s = .ok s') (hs : Q s) : Q s' := by
  induction members generalizing seen s with
  | nil =>
    obtain rfl := Except.ok.inj h
    exact hs
  | cons member members ih =>
    obtain ⟨key, value⟩ := member
    rw [Json.all_object, List.forall_mem_cons] at hj
    obtain ⟨hvalue, hmembers⟩ := hj
    rw [← Json.all_object] at hmembers
    rw [readMembers] at h
    split at h
    · exact ih hmembers h hs
    · next f hfind =>
      split at h
      · exact nomatch h
      · split at h
        · next s'' hread =>
          exact ih hmembers h (hfields f (List.mem_of_find?_eq_some hfind) _ _ _ hvalue hread hs)
        · exact nomatch h

theorem readElements_keeps {fields : List (Field σ)} (hfields : ∀ f ∈ fields, f.Keeps T Q)
    {total : Nat} {elements : List Json} (hj : (Json.array elements).All T) {s s' : σ}
    (h : readElements total fields elements s = .ok s') (hs : Q s) : Q s' := by
  induction elements generalizing fields s with
  | nil =>
    obtain rfl : s = s' := by simpa [readElements] using h
    exact hs
  | cons value values ih =>
    rcases fields with _ | ⟨f, fields⟩
    · exact nomatch h
    · rw [Json.all_array, List.forall_mem_cons] at hj
      obtain ⟨hvalue, hvalues⟩ := hj
      rw [← Json.all_array] at hvalues
      rw [readElements] at h
      split at h
      · next s'' hread =>
        exact ih (fun g hg => hfields g (List.mem_cons_of_mem f hg)) hvalues h
          (hfields f List.mem_cons_self _ _ _ hvalue hread hs)
      · exact nomatch h

/-- **A record has the properties that its fields keep.** -/
theorem readRecord_keeps {fields : List (Field σ)} (hfields : fields.Forall (Field.Keeps T Q))
    {name : String} {defaults : σ} (hdefaults : Q defaults) {j : Json} (hj : j.All T) {s : σ}
    (h : readRecord name fields defaults j = .ok s) : Q s := by
  rw [List.forall_iff_forall_mem] at hfields
  rcases j with _ | b | n | s' | elements | members
  case null =>
    obtain rfl := Except.ok.inj h
    exact hdefaults
  case array => exact readElements_keeps hfields hj h hdefaults
  case object => exact readMembers_keeps hfields hj h hdefaults
  all_goals exact nomatch h

/-! ## Fields -/

theorem keeps_of {read : Json → Except Mismatch α} {R : α → Prop}
    (hread : ∀ j a, j.All T → read j = .ok a → R a) {set : α → σ → σ}
    (hset : ∀ a s, R a → Q s → Q (set a s)) (names : List String) :
    (Field.of read set names).Keeps T Q := by
  intro j s s' hj h hs
  rcases hvalue : read j with m | a
  · simp [Field.of, hvalue, Except.map] at h
  · obtain rfl : set a s = s' := by simpa [Field.of, hvalue, Except.map] using h
    exact hset a s (hread j a hj hvalue) hs

/-- A field that holds no text. -/
theorem keeps_other {read : Json → Except Mismatch α} {set : α → σ → σ}
    (hset : ∀ a s, Q s → Q (set a s)) (names : List String) : (Field.of read set names).Keeps T Q :=
  keeps_of (R := fun _ => True) (fun _ _ _ _ => trivial) (fun a s _ => hset a s) names

theorem all_readText {j : Json} {s : Text} (hj : j.All T) (h : readText j = .ok s) : T s := by
  cases j with
  | string t =>
    obtain rfl := Except.ok.inj h
    exact Json.all_string.mp hj
  | _ => exact nomatch h

theorem forall_readList {read : Json → Except Mismatch α} {R : α → Prop}
    (hread : ∀ j a, j.All T → read j = .ok a → R a) {j : Json} {as : List α} (hj : j.All T)
    (h : readList read j = .ok as) : ∀ a ∈ as, R a := by
  cases j with
  | array elements =>
    have hmap : elements.mapM read = .ok as := h
    have helements := Json.all_array.mp hj
    clear h hj
    induction elements generalizing as with
    | nil =>
      obtain rfl : [] = as := Except.ok.inj hmap
      exact fun a ha => absurd ha List.not_mem_nil
    | cons j elements ih =>
      rw [List.mapM_cons] at hmap
      rcases hfirst : read j with m | a
      · rw [hfirst] at hmap
        exact nomatch hmap
      · rcases hrest : elements.mapM read with m | rest
        · rw [hfirst, hrest] at hmap
          exact nomatch hmap
        · rw [hfirst, hrest] at hmap
          obtain rfl : a :: rest = as := Except.ok.inj hmap
          rw [List.forall_mem_cons] at helements
          exact List.forall_mem_cons.mpr ⟨hread j a helements.1 hfirst, ih hrest helements.2⟩
  | _ => exact nomatch h

theorem keeps_text {set : Text → σ → σ} (hset : ∀ a s, T a → Q s → Q (set a s))
    (names : List String) : (Field.of readText set names).Keeps T Q :=
  keeps_of (fun _ _ => all_readText) hset names

theorem keeps_texts {set : List Text → σ → σ} (hset : ∀ as s, (∀ a ∈ as, T a) → Q s → Q (set as s))
    (names : List String) : (Field.of (readList readText) set names).Keeps T Q :=
  keeps_of (fun _ _ => forall_readList fun _ _ => all_readText) hset names

end Records

/-! ## The texts of each kind -/

variable {j : Json} {name : String}

/-- The texts of a one-line field. -/
def Input.texts (o : Input) : List Text :=
  [o.title, o.description, o.placeholder, o.value, o.prompt]

theorem Input.forall_texts (hnil : T []) (hj : j.All T) {o : Input}
    (h : readRecord name fields {} j = .ok o) : ∀ s ∈ o.texts, T s := by
  refine readRecord_keeps (Q := fun o => ∀ s ∈ o.texts, T s) ?_ (by simp [texts, hnil]) hj h
  simp only [fields, List.Forall]
  refine ⟨keeps_text ?_ _, keeps_text ?_ _, keeps_text ?_ _, keeps_text ?_ _, keeps_other ?_ _,
    keeps_other ?_ _, keeps_other ?_ _, keeps_text ?_ _⟩
  all_goals simp +contextual [texts, or_imp, forall_and]

/-- The texts of a question. -/
def Confirm.texts (o : Confirm) : List Text := [o.title, o.description, o.affirmative, o.negative]

theorem Confirm.forall_texts (hnil : T []) (hj : j.All T) {o : Confirm}
    (h : readRecord name fields {} j = .ok o) : ∀ s ∈ o.texts, T s := by
  refine readRecord_keeps (Q := fun o => ∀ s ∈ o.texts, T s) ?_ (by simp [texts, hnil]) hj h
  simp only [fields, List.Forall]
  refine ⟨keeps_text ?_ _, keeps_text ?_ _, keeps_text ?_ _, keeps_text ?_ _, keeps_other ?_ _⟩
  all_goals simp +contextual [texts, or_imp, forall_and]

/-- The texts of a choice from a list. -/
def Choose.texts (o : Choose) : List Text :=
  [o.title, o.description, o.selected, o.cursor] ++ o.items

theorem Choose.forall_texts (hnil : T []) (hj : j.All T) {o : Choose}
    (h : readRecord name fields {} j = .ok o) : ∀ s ∈ o.texts, T s := by
  refine readRecord_keeps (Q := fun o => ∀ s ∈ o.texts, T s) ?_ (by simp [texts, hnil]) hj h
  simp only [fields, List.Forall]
  refine ⟨keeps_text ?_ _, keeps_text ?_ _, keeps_texts ?_ _, keeps_text ?_ _, keeps_other ?_ _,
    keeps_other ?_ _, keeps_other ?_ _, keeps_other ?_ _, keeps_text ?_ _⟩
  all_goals simp +contextual [texts, or_imp, forall_and]

/-- The texts of a list that is narrowed down. -/
def Filter.texts (o : Filter) : List Text :=
  [o.title, o.description, o.placeholder, o.prompt, o.value] ++ o.items

theorem Filter.forall_texts (hnil : T []) (hj : j.All T) {o : Filter}
    (h : readRecord name fields {} j = .ok o) : ∀ s ∈ o.texts, T s := by
  refine readRecord_keeps (Q := fun o => ∀ s ∈ o.texts, T s) ?_ (by simp [texts, hnil]) hj h
  simp only [fields, List.Forall]
  refine ⟨keeps_text ?_ _, keeps_text ?_ _, keeps_texts ?_ _, keeps_other ?_ _, keeps_other ?_ _,
    keeps_other ?_ _, keeps_text ?_ _, keeps_text ?_ _, keeps_text ?_ _, keeps_other ?_ _,
    keeps_other ?_ _, keeps_other ?_ _, keeps_other ?_ _, keeps_other ?_ _, keeps_other ?_ _⟩
  all_goals simp +contextual [texts, or_imp, forall_and]

/-- The texts of a file picker. -/
def File.texts (o : File) : List Text := [o.title, o.description, o.path] ++ o.extensions

theorem File.forall_texts (hnil : T []) (hj : j.All T) {o : File}
    (h : readRecord name fields {} j = .ok o) : ∀ s ∈ o.texts, T s := by
  refine readRecord_keeps (Q := fun o => ∀ s ∈ o.texts, T s) ?_ (by simp [texts, hnil]) hj h
  simp only [fields, List.Forall]
  refine ⟨keeps_text ?_ _, keeps_text ?_ _, keeps_text ?_ _, keeps_texts ?_ _, keeps_other ?_ _,
    keeps_other ?_ _, keeps_other ?_ _, keeps_other ?_ _, keeps_other ?_ _⟩
  all_goals simp +contextual [texts, or_imp, forall_and]

/-- The texts of an editor. -/
def Write.texts (o : Write) : List Text := [o.title, o.description, o.placeholder, o.value]

theorem Write.forall_texts (hnil : T []) (hj : j.All T) {o : Write}
    (h : readRecord name fields {} j = .ok o) : ∀ s ∈ o.texts, T s := by
  refine readRecord_keeps (Q := fun o => ∀ s ∈ o.texts, T s) ?_ (by simp [texts, hnil]) hj h
  simp only [fields, List.Forall]
  refine ⟨keeps_text ?_ _, keeps_text ?_ _, keeps_text ?_ _, keeps_text ?_ _, keeps_other ?_ _,
    keeps_other ?_ _, keeps_other ?_ _, keeps_other ?_ _⟩
  all_goals simp +contextual [texts, or_imp, forall_and]

/-- The texts of a spinner. -/
def Spin.texts (o : Spin) : List Text := [o.title, o.spinner] ++ o.command

theorem Spin.forall_texts (hnil : T []) (hj : j.All T) {o : Spin}
    (h : readRecord name fields {} j = .ok o) : ∀ s ∈ o.texts, T s := by
  refine readRecord_keeps (Q := fun o => ∀ s ∈ o.texts, T s) ?_ (by simp [texts, hnil]) hj h
  simp only [fields, List.Forall]
  refine ⟨keeps_text ?_ _, keeps_text ?_ _, keeps_texts ?_ _⟩
  all_goals simp +contextual [texts, or_imp, forall_and]

/-- The texts of a pager. -/
def Pager.texts (o : Pager) : List Text := [o.title, o.content]

theorem Pager.forall_texts (hnil : T []) (hj : j.All T) {o : Pager}
    (h : readRecord name fields {} j = .ok o) : ∀ s ∈ o.texts, T s := by
  refine readRecord_keeps (Q := fun o => ∀ s ∈ o.texts, T s) ?_ (by simp [texts, hnil]) hj h
  simp only [fields, List.Forall]
  refine ⟨keeps_text ?_ _, keeps_text ?_ _, keeps_other ?_ _, keeps_other ?_ _⟩
  all_goals simp +contextual [texts, or_imp, forall_and]

/-! ## The texts of tables -/

theorem mem_of_member? {members : List (Text × Json)} {key : Text}
    (h : (Json.object members).member? key = some j) : (key, j) ∈ members := by
  rw [Json.member?, Option.map_eq_some_iff] at h
  obtain ⟨member, hfind, rfl⟩ := h
  obtain rfl : member.1 = key := by simpa using List.find?_some hfind
  exact List.mem_of_find?_eq_some hfind

theorem all_readColumn (hj : j.All T) {c : Column} (h : readColumn j = .ok c) : T c.title := by
  have hcolumn : column? j = some c := by
    rw [readColumn] at h
    split at h
    · next hcolumn => rw [hcolumn, Except.ok.inj h]
    · exact nomatch h
  cases j with
  | string title =>
    obtain rfl : ⟨title, 0⟩ = c := Option.some.inj hcolumn
    exact Json.all_string.mp hj
  | object members =>
    have htitle {title : Text}
        (hmember : (Json.object members).member? "title".toList = some (.string title)) : T title :=
      Json.all_string.mp (Json.all_object.mp hj _ (mem_of_member? hmember))
    rw [column?] at hcolumn
    split at hcolumn
    · next hmember _ =>
      obtain rfl := Option.some.inj hcolumn
      exact htitle hmember
    · next hmember _ =>
      obtain ⟨w, -, rfl⟩ := Option.map_eq_some_iff.mp hcolumn
      exact htitle hmember
    · exact nomatch hcolumn
  | _ => exact nomatch hcolumn

/-- The texts in the columns of a table. -/
def Table.cells (o : Table) : List Text := o.columns.map Column.title ++ o.rows.flatten

/-- The texts of a table. -/
def Table.texts (o : Table) : List Text := [o.title, o.csv, o.separator] ++ o.cells

theorem Table.forall_texts (hnil : T []) (hj : j.All T) {o : Table}
    (h : readRecord name fields {} j = .ok o) : ∀ s ∈ o.texts, T s := by
  refine readRecord_keeps (Q := fun o => ∀ s ∈ o.texts, T s) ?_ (by simp [texts, cells, hnil]) hj h
  simp only [fields, List.Forall]
  have hcolumns : ∀ j as, j.All T → readList readColumn j = .ok as → ∀ c ∈ as, T c.title :=
    fun _ _ => forall_readList fun _ _ hj => all_readColumn hj
  refine ⟨keeps_text ?_ _, keeps_of hcolumns ?_ _,
    keeps_of (fun _ _ => forall_readList fun _ _ => forall_readList fun _ _ => all_readText) ?_ _,
    keeps_text ?_ _, keeps_text ?_ _, keeps_other ?_ _, keeps_other ?_ _, keeps_other ?_ _,
    keeps_other ?_ _⟩
  all_goals simp +contextual [texts, cells, or_imp, forall_and]
  exact fun rows o hrows _ _ _ _ _ s row hrow hs => hrows row hrow s hs

end Options
end TerminalDialogs
