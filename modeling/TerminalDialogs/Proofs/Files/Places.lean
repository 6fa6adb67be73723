import TerminalDialogs.Proofs.Files.Names

/-!
# What paths name

A directory shows what lies under its names, and the path of a name in it is the path of the
directory with the name behind.  To follow that path is to follow the one of the directory
and then the name (`Tree.follow_append`, `Path.exists_pieces_child`), so whoever looks it up finds
what the directory shows (`Tree.Shows.named`).

This is so only as long as names are names: one with a slash in it, or two dots, would lead
elsewhere (`Path.IsName`).  And a path that cannot be followed to its end, such as that of a link
to nowhere, still names what the directory holds; `Tree.Named` says so.
-/

namespace TerminalDialogs

namespace Path

/-- A name that something in a directory can have. -/
structure IsName (name : Text) : Prop where
  ne_nil : name ≠ []
  ne_dot : name ≠ ['.']
  ne_dots : name ≠ ['.', '.']
  slash_notMem : '/' ∉ name

instance (name : Text) : Decidable (IsName name) :=
  decidable_of_iff (name ≠ [] ∧ name ≠ ['.'] ∧ name ≠ ['.', '.'] ∧ '/' ∉ name)
    ⟨fun ⟨hnil, hdot, hdots, hslash⟩ => ⟨hnil, hdot, hdots, hslash⟩,
      fun h => ⟨h.ne_nil, h.ne_dot, h.ne_dots, h.slash_notMem⟩⟩

namespace IsName

variable {name : Text}

theorem pieces_eq (h : IsName name) : Text.pieces '/' name = [name] :=
  Text.pieces_join (List.cons_ne_nil _ _) fun l hl => by
    rw [List.mem_singleton.mp hl]
    exact h.slash_notMem

theorem isAbsolute_eq (h : IsName name) : isAbsolute name = false :=
  beq_eq_false_iff_ne.mpr fun hslash => h.slash_notMem (List.mem_of_mem_head? hslash)

end IsName

/-- The path of a name in a directory has the pieces of the directory and the name behind them. -/
theorem exists_pieces_child {name : Text} (h : IsName name) (directory : Text) :
    ∃ front, Text.pieces '/' (child directory name) = front ++ [name] ∧
      (Text.pieces '/' directory = front ∨ Text.pieces '/' directory = front ++ [[]]) := by
  rw [child, h.isAbsolute_eq, if_neg Bool.false_ne_true]
  by_cases hempty : directory = []
  · subst hempty
    exact ⟨[], h.pieces_eq, Or.inr rfl⟩
  rw [if_neg (by rwa [List.isEmpty_iff])]
  by_cases hslash : directory.getLast? = some '/'
  · obtain ⟨above, rfl⟩ := List.getLast?_eq_some_iff.mp hslash
    refine ⟨Text.pieces '/' above, ?_, Or.inr (Text.pieces_append_cons _ above [])⟩
    rw [if_pos hslash, List.append_assoc, List.singleton_append, Text.pieces_append_cons,
      h.pieces_eq]
  · refine ⟨Text.pieces '/' directory, ?_, Or.inl rfl⟩
    rw [if_neg hslash, List.append_assoc, List.singleton_append, Text.pieces_append_cons,
      h.pieces_eq]

/-- The name of the path of a name in a directory is that name. -/
theorem name?_child {name : Text} (h : IsName name) (directory : Text) :
    name? (child directory name) = some name := by
  obtain ⟨front, hpieces, -⟩ := exists_pieces_child h directory
  have hkept : isComponent front.length name = true := by
    simp [isComponent, h.ne_nil, h.ne_dot]
  have htrim : trimPieces (front ++ [name]) = front ++ [name] := by
    rw [trimPieces, List.zipIdx_append, List.reverse_append]
    simp [hkept, List.zipIdx_map_fst]
  rw [name?, hpieces, htrim, List.getLast?_concat]
  exact if_neg (not_or.mpr ⟨h.ne_dot, h.ne_dots⟩)

theorem isAbsolute_child {directory name : Text} (h : IsName name) (hne : directory ≠ []) :
    isAbsolute (child directory name) = isAbsolute directory := by
  obtain ⟨c, directory, rfl⟩ := List.exists_cons_of_ne_nil hne
  rw [child, h.isAbsolute_eq, if_neg Bool.false_ne_true, if_neg (by rw [List.isEmpty_cons]; decide)]
  split <;> rfl

end Path

namespace Files
namespace Tree

open TerminalDialogs.Path (IsName child)

variable {t : Tree}

/-! ## Following a path -/

/-- Whatever comes behind some steps is followed from where they lead, with the links that are
left, unless they lead nowhere. -/
theorem follow_append (t : Tree) (links : Nat) (place : Place) (a : List Text) :
    (∃ problem, ∀ b, t.follow links place (a ++ b) = .error problem) ∨
      ∃ links' mid, ∀ b, t.follow links place (a ++ b) = t.follow links' mid b := by
  fun_induction follow t links place a with
  | case1 links place => exact Or.inr ⟨links, place, fun b => rfl⟩
  | case2 links place name rest hplace =>
    refine Or.inl ⟨.notDirectory, fun b => ?_⟩
    rw [List.cons_append, follow, if_pos hplace]
  | case3 links place rest hplace ih =>
    simpa only [List.cons_append, follow, if_neg hplace, if_true] using ih
  | case4 links place rest hplace hdot ih =>
    simpa only [List.cons_append, follow, if_neg hplace, if_neg hdot, if_true] using ih
  | case5 links place name rest hplace hdot hdots hlong =>
    refine Or.inl ⟨.nameTooLong, fun b => ?_⟩
    rw [List.cons_append, follow, if_neg hplace, if_neg hdot, if_neg hdots, if_pos hlong]
  | case6 links place name rest hplace hdot hdots hshort hentry =>
    refine Or.inl ⟨.notFound, fun b => ?_⟩
    simp only [List.cons_append, follow, if_neg hplace, if_neg hdot, if_neg hdots, if_neg hshort,
      hentry]
  | case7 place name rest hplace hdot hdots hshort target hentry =>
    refine Or.inl ⟨.tooManyLinks, fun b => ?_⟩
    simp only [List.cons_append, follow, if_neg hplace, if_neg hdot, if_neg hdots, if_neg hshort,
      hentry]
  | case8 place name rest hplace hdot hdots hshort target hentry links ih =>
    simpa only [List.cons_append, follow, if_neg hplace, if_neg hdot, if_neg hdots,
      if_neg hshort, hentry, List.append_assoc] using ih
  | case9 links place name rest hplace hdot hdots hshort e hlink hentry ih =>
    cases e with
    | link target => exact absurd rfl (hlink target)
    | _ =>
      simpa only [List.cons_append, follow, if_neg hplace, if_neg hdot, if_neg hdots,
        if_neg hshort, hentry] using ih

/-- A name that stands for itself leads to what lies under it. -/
theorem eq_of_follow_name {links : Nat} {place place' : Place} {name : Text} (hname : IsName name)
    (hlink : ∀ target, t.at? (place ++ [name]) ≠ some (.link target))
    (h : t.follow links place [name] = .ok place') : place' = place ++ [name] := by
  rw [follow, if_neg hname.ne_dot, if_neg hname.ne_dots] at h
  split at h
  · cases h
  split at h
  · cases h
  split at h
  · cases h
  · next target hentry => exact absurd hentry (hlink target)
  · rw [follow] at h
    exact (Except.ok.inj h).symm

/-- The steps to a name in a directory are those to the directory and the name; that a slash
asks for a directory no longer needs to be said. -/
theorem exists_steps_child {name : Text} (hname : IsName name) (directory : Text) :
    ∃ front, steps (child directory name) = front ++ [name] ∧
      (steps directory = front ∨ steps directory = front ++ [['.']]) := by
  obtain ⟨front, hchild, hdirectory⟩ := Path.exists_pieces_child hname directory
  refine ⟨front.filter (· != []), ?_, ?_⟩
  · simp [steps, hchild, hname.ne_nil]
  · rcases hdirectory with hdirectory | hdirectory
    · rw [steps, hdirectory]
      split
      · exact Or.inr rfl
      · exact Or.inl (List.append_nil _)
    · refine Or.inr ?_
      simp [steps, hdirectory]

/-- Where steps lead, perhaps with a dot behind them, there the steps after them begin. -/
theorem exists_follow_concat {links : Nat} {start place : Place} {front all : List Text}
    (hall : all = front ∨ all = front ++ [['.']]) (h : t.follow links start all = .ok place)
    (name : Text) : ∃ links',
      t.follow links start (front ++ [name]) = t.follow links' place [name] := by
  rcases follow_append t links start front with ⟨problem, hfail⟩ | ⟨links', mid, hmid⟩
  · rcases hall with rfl | rfl
    · have hnil := hfail []
      rw [List.append_nil, h] at hnil
      cases hnil
    · cases h.symm.trans (hfail [['.']])
  · suffices hplace : mid = place from ⟨links', hplace ▸ hmid [name]⟩
    rcases hall with rfl | rfl
    · have hnil := hmid []
      rw [List.append_nil, h, follow] at hnil
      exact (Except.ok.inj hnil).symm
    · rw [hmid, follow] at h
      split at h
      · cases h
      · rw [if_pos rfl, follow] at h
        exact Except.ok.inj h

/-- **The path of a name leads to what the directory holds under it**, unless that is a link
or the path cannot be followed. -/
theorem eq_of_resolve_child {directory name : Text} {place place' : Place} (hname : IsName name)
    (hplace : t.resolve directory = .ok place)
    (hlink : ∀ target, t.at? (place ++ [name]) ≠ some (.link target))
    (h : t.resolve (child directory name) = .ok place') : place' = place ++ [name] := by
  rw [resolve] at hplace h
  split at hplace
  · cases hplace
  next hproblem =>
  split at h
  · cases h
  have hne : directory ≠ [] := by
    rintro rfl
    cases hproblem
  obtain ⟨front, hchild, hdirectory⟩ := exists_steps_child hname directory
  obtain ⟨links, hfollow⟩ := exists_follow_concat hdirectory hplace name
  rw [startOf, Path.isAbsolute_child hname hne, hchild] at h
  exact eq_of_follow_name hname hlink (hfollow.symm.trans h)

/-! ## What a directory shows -/

/-- A tree whose names are names, as those of every file system are. -/
def WellNamed (t : Tree) : Prop := ∀ name, t.Names name → IsName name

instance (t : Tree) : Decidable t.WellNamed :=
  decidable_of_iff
    ((∀ name ∈ t.working, IsName name) ∧ ∀ e ∈ t.entries, ∀ name ∈ e.1, IsName name)
    ⟨fun h name hname => hname.elim (h.1 name) fun ⟨e, he, hmem⟩ => h.2 e he name hmem,
      fun h => ⟨fun name hname => h name (Or.inl hname),
        fun e he name hname => h name (Or.inr ⟨e, he, hname⟩)⟩⟩

/-- Under every name that a directory holds there lies something. -/
theorem exists_at?_of_mem_namesIn {place : Place} {name : Text} (h : name ∈ t.namesIn place) :
    ∃ e, t.at? (place ++ [name]) = some e := by
  rw [namesIn, List.mem_eraseDups] at h
  obtain ⟨below, hbelow, hname⟩ := List.mem_filterMap.mp h
  have hbegins : (place ++ [name]).isPrefixOf below = true := by
    split at hname
    · next hplace =>
      obtain ⟨rest, rfl⟩ := List.isPrefixOf_iff_prefix.mp hplace
      rw [List.drop_left] at hname
      obtain ⟨others, rfl⟩ := List.head?_eq_some_iff.mp hname
      exact List.isPrefixOf_iff_prefix.mpr ⟨others, List.append_assoc place [name] others⟩
    · cases hname
  rw [at?]
  split
  · exact ⟨_, rfl⟩
  · refine ⟨.directory, if_pos ?_⟩
    rcases List.mem_cons.mp hbelow with rfl | hbelow
    · rw [hbegins, Bool.or_true, Bool.true_or]
    · obtain ⟨e, he, rfl⟩ := List.mem_map.mp hbelow
      rw [List.any_eq_true.mpr ⟨e, he, hbegins⟩, Bool.or_true]

/-- What a directory shows of one of its names. -/
def Shows (t : Tree) (directory : Text) (e : Listed) : Prop :=
  ∃ place, t.resolve directory = .ok place ∧ e.name ∈ t.namesIn place ∧
    e = t.listed directory place e.name

theorem shows_of_mem_list {showHidden : Bool} {directory : Text} {entries : List Listed}
    (h : t.list showHidden directory = .ok entries) {e : Listed} (he : e ∈ entries) :
    t.Shows directory e := by
  rw [list] at h
  split at h
  · cases h
  · next place hplace =>
    split at h
    · obtain rfl := Except.ok.inj h
      obtain ⟨name, hname, rfl⟩ := List.mem_map.mp (List.mem_mergeSort.mp he)
      refine ⟨place, hplace, ?_⟩
      rw [name_listed]
      exact ⟨(List.mem_filter.mp hname).1, rfl⟩
    · obtain rfl := Except.ok.inj h
      exact absurd he List.not_mem_nil

/-- What a path names: what it leads to or, if it cannot be followed to its end, what its
directory holds under its last name. -/
inductive Named (t : Tree) (path : Text) : Entry → Prop where
  | found {e : Entry} (h : t.lookUp path = .ok e) : Named t path e
  | held {directory name : Text} {place : Place} {problem : Problem} {e : Entry}
      (hname : IsName name) (hpath : path = child directory name)
      (hplace : t.resolve directory = .ok place) (hentry : t.at? (place ++ [name]) = some e)
      (hlost : t.lookUp path = .error problem) : Named t path e

/-- A path that leads somewhere names nothing else. -/
theorem Named.eq_of_lookUp {path : Text} {e e' : Entry} (h : t.Named path e)
    (hfound : t.lookUp path = .ok e') : e = e' := by
  cases h with
  | found h => exact Except.ok.inj (h.symm.trans hfound)
  | held _ _ _ _ hlost => cases hlost.symm.trans hfound

theorem isDirectory_iff {path : Text} :
    t.isDirectory path = true ↔ t.lookUp path = .ok .directory := by
  rw [isDirectory]
  split
  · next h => exact ⟨fun _ => h, fun _ => rfl⟩
  · next h => exact ⟨fun hfalse => absurd hfalse Bool.false_ne_true, fun hfound => absurd hfound h⟩

/-- Directories and the links to them are shown as directories. -/
theorem isDirectory_listed {name : Text} {place : Place} {entry : Entry} (directory : Text)
    (hentry : t.at? (place ++ [name]) = some entry) :
    (t.listed directory place name).isDirectory = true ↔
      entry = .directory ∨
        (∃ target, entry = .link target) ∧ t.isDirectory (child directory name) = true := by
  rw [listed, hentry]
  cases entry with
  | file size => simp
  | directory => simp
  | link target => by_cases h : t.isDirectory (child directory name) = true <;> simp [h]

/-- What a path in a directory leads to is what the directory holds, unless that is a link. -/
theorem eq_of_lookUp_child {directory name : Text} {place : Place} {entry found : Entry}
    (hname : IsName name) (hplace : t.resolve directory = .ok place)
    (hentry : t.at? (place ++ [name]) = some entry) (hlink : ∀ target, entry ≠ .link target)
    (h : t.lookUp (child directory name) = .ok found) : found = entry := by
  rw [lookUp] at h
  cases hresolve : t.resolve (child directory name) with
  | error problem =>
    rw [hresolve] at h
    cases h
  | ok place' =>
    have hheld : ∀ target, t.at? (place ++ [name]) ≠ some (.link target) := fun target hheld =>
      hlink target (Option.some.inj (hentry.symm.trans hheld))
    obtain rfl := eq_of_resolve_child hname hplace hheld hresolve
    rw [hresolve] at h
    simp only [bind, Except.bind, hentry] at h
    exact (Except.ok.inj h).symm

theorem Shows.isName {directory : Text} {e : Listed} (htree : t.WellNamed)
    (h : t.Shows directory e) : IsName e.name := by
  obtain ⟨place, -, hmem, -⟩ := h
  exact htree _ (names_of_mem_namesIn hmem)

/-- **What a directory shows is named by its path**, and it is a directory if it is shown as
one. -/
theorem Shows.named {directory : Text} {e : Listed} (htree : t.WellNamed)
    (h : t.Shows directory e) :
    ∃ entry, t.Named (child directory e.name) entry ∧
      (entry = .directory ↔ e.isDirectory = true) := by
  have hname := h.isName htree
  obtain ⟨place, hplace, hmem, hlisted⟩ := h
  obtain ⟨entry, hentry⟩ := exists_at?_of_mem_namesIn hmem
  have hshown := isDirectory_listed directory hentry
  rw [← hlisted, isDirectory_iff] at hshown
  cases hfound : t.lookUp (child directory e.name) with
  | error problem =>
    refine ⟨entry, .held hname rfl hplace hentry hfound, ?_⟩
    rw [hshown, hfound]
    simp
  | ok found =>
    refine ⟨found, .found hfound, ?_⟩
    rw [hshown, hfound, Except.ok.injEq]
    by_cases hlink : ∃ target, entry = .link target
    · obtain ⟨target, rfl⟩ := hlink
      simp
    · have heq := eq_of_lookUp_child hname hplace hentry (not_exists.mp hlink) hfound
      simp [heq, hlink]

end Tree
end Files
end TerminalDialogs
