import TerminalDialogs.Proofs.Files.Parents
import TerminalDialogs.Proofs.Text.Utf8

/-!
# Following a part of a path

To follow a path is to follow its pieces that are not empty (`Tree.filled`), and a dot among them
leaves one where one is (`Tree.eq_of_follow_dots`).  So a path that leads to a directory leads
there without its end as well (`Tree.resolve_tidied`), and its parent leads to where the path leads
before its last piece (`Tree.exists_above`).  If that piece is a name, this is the directory above,
which holds what the path leads to, or a link (`Tree.Above`, `Tree.resolve_parent`).

The same holds of the paths of names in the directory, as long as the system takes them: with
`Tree.list_tidied` a directory shows the same under both of its paths if no path of what it shows
is too long.  Its names are the same in any case (`Tree.perm_names_of_list`).
-/

namespace TerminalDialogs
namespace Files
namespace Tree

open TerminalDialogs.Path (IsName child trimPieces upTo tidied)

variable {t : Tree}

/-! ## Paths that the system takes -/

theorem pathProblem?_eq_none_iff {p : Text} :
    pathProblem? p = none ↔ '\x00' ∉ p ∧ p ≠ [] ∧ Utf8.size p < pathLimit := by
  rw [pathProblem?]
  by_cases hzero : '\x00' ∈ p
  · simp [hzero]
  · by_cases hempty : p = []
    · simp [hempty]
    · simp [hzero, hempty]

/-- A system takes the beginnings of a path that it takes. -/
theorem pathProblem?_of_isPrefix {p front : Text} (hbegins : front <+: p) (hne : front ≠ [])
    (h : pathProblem? p = none) : pathProblem? front = none := by
  obtain ⟨rest, rfl⟩ := hbegins
  obtain ⟨hzero, -, hsize⟩ := pathProblem?_eq_none_iff.mp h
  rw [Utf8.size_append] at hsize
  refine pathProblem?_eq_none_iff.mpr ⟨fun hmem => hzero ?_, hne, by omega⟩
  exact List.mem_append_left rest hmem

/-- A path that the system does not take leads to no directory. -/
theorem isDirectory_of_pathProblem? {p : Text} {problem : Problem}
    (h : pathProblem? p = some problem) : t.isDirectory p = false := by
  rw [isDirectory, lookUp, resolve, h]
  rfl

theorem resolve_eq_ok_iff {p : Text} {place : Place} : t.resolve p = .ok place ↔
    pathProblem? p = none ∧ t.follow linkLimit (startOf t.working p) (steps p) = .ok place := by
  rw [resolve]
  cases hproblem : pathProblem? p with
  | some problem => simp
  | none => simp

/-! ## Steps -/

/-- The pieces that are followed. -/
def filled (pieces : List Text) : List Text := pieces.filter (· != [])

theorem filled_append (front back : List Text) :
    filled (front ++ back) = filled front ++ filled back := List.filter_append _ _

theorem filled_concat {piece : Text} (hne : piece ≠ []) (front : List Text) :
    filled (front ++ [piece]) = filled front ++ [piece] := by
  simp [filled, hne]

theorem exists_steps_eq (p : Text) : ∃ dots, steps p = filled (Text.pieces '/' p) ++ dots ∧
    ∀ dot ∈ dots, dot = ['.'] := by
  rw [steps]
  refine ⟨_, rfl, fun dot hdot => ?_⟩
  split at hdot
  · exact List.mem_singleton.mp hdot
  · exact absurd hdot List.not_mem_nil

theorem eq_dot_of_mem_filled {noise : List Text}
    (hnoise : ∀ piece ∈ noise, piece = [] ∨ piece = ['.']) {piece : Text}
    (h : piece ∈ filled noise) : piece = ['.'] := by
  obtain ⟨hmem, hne⟩ := List.mem_filter.mp h
  exact (hnoise piece hmem).resolve_left (bne_iff_ne.mp hne)

theorem exists_filled_eq (pieces : List Text) : ∃ dots,
    filled pieces = filled (trimPieces pieces) ++ dots ∧ ∀ dot ∈ dots, dot = ['.'] := by
  obtain ⟨noise, hpieces, hnoise⟩ := Path.exists_noise pieces
  refine ⟨filled noise, ?_, fun dot => eq_dot_of_mem_filled hnoise⟩
  rw [← filled_append, ← hpieces]

theorem filled_pieces_upTo {p : Text} {front : List Text} (hfront : front <+: Text.pieces '/' p) :
    filled (Text.pieces '/' (upTo p front)) = filled (trimPieces front) := by
  by_cases hnil : trimPieces front = []
  · rw [Path.upTo_of_nil hnil, hnil]
    split
    · rfl
    · rfl
  · rw [Path.pieces_upTo hfront hnil]

theorem steps_child {name : Text} (hname : IsName name) (directory : Text) :
    steps (child directory name) = filled (Text.pieces '/' directory) ++ [name] := by
  obtain ⟨front, hchild, hdirectory⟩ := Path.exists_pieces_child hname directory
  have hfilled : filled (Text.pieces '/' directory) = filled front := by
    rcases hdirectory with hdirectory | hdirectory
    · rw [hdirectory]
    · rw [hdirectory, filled_append]
      exact List.append_nil _
  rw [hfilled, steps, hchild, List.getLast?_concat]
  simp [filled, hname.ne_nil]

theorem startOf_upTo {p : Text} {front : List Text} (hfront : front <+: Text.pieces '/' p)
    (hne : upTo p front ≠ []) (place : Place) : startOf place (upTo p front) = startOf place p := by
  rw [startOf, startOf, Path.isAbsolute_upTo hfront hne]

/-! ## Dots -/

section Dots

variable {links : Nat} {start place : Place} {front dots : List Text}

/-- Dots lead from a directory to itself. -/
theorem follow_dots_append (hdots : ∀ dot ∈ dots, dot = ['.'])
    (hplace : t.at? place = some .directory) (b : List Text) :
    t.follow links place (dots ++ b) = t.follow links place b := by
  induction dots with
  | nil => rfl
  | cons dot dots ih =>
    rw [List.forall_mem_cons] at hdots
    rw [hdots.1, List.cons_append, follow, if_neg (not_not.mpr hplace), if_pos rfl]
    exact ih hdots.2

theorem eq_of_follow_dots (hdots : ∀ dot ∈ dots, dot = ['.'])
    (h : t.follow links start dots = .ok place) : place = start := by
  induction dots with
  | nil =>
    rw [follow] at h
    exact (Except.ok.inj h).symm
  | cons dot dots ih =>
    rw [List.forall_mem_cons] at hdots
    rw [hdots.1, follow] at h
    split at h
    · cases h
    · rw [if_pos rfl] at h
      exact ih hdots.2 h

theorem at?_of_follow_cons {name : Text} {rest : List Text}
    (h : t.follow links start (name :: rest) = .ok place) : t.at? start = some .directory := by
  rw [follow] at h
  split at h
  · cases h
  · next hstart => exact not_not.mp hstart

/-- Steps that lead somewhere lead anything behind them on from there. -/
theorem exists_follow_append (h : t.follow links start front = .ok place) :
    ∃ links', ∀ b, t.follow links start (front ++ b) = t.follow links' place b := by
  rcases follow_append t links start front with ⟨problem, hfail⟩ | ⟨links', mid, hmid⟩
  · have hnil := hfail []
    rw [List.append_nil, h] at hnil
    cases hnil
  · have hnil := hmid []
    rw [List.append_nil, h, follow] at hnil
    obtain rfl := Except.ok.inj hnil
    exact ⟨links', hmid⟩

/-- Where steps and some dots lead, there the steps lead without them. -/
theorem follow_of_append_dots (hdots : ∀ dot ∈ dots, dot = ['.'])
    (h : t.follow links start (front ++ dots) = .ok place) :
    t.follow links start front = .ok place := by
  rcases follow_append t links start front with ⟨problem, hfail⟩ | ⟨links', mid, hmid⟩
  · cases h.symm.trans (hfail dots)
  · obtain rfl := eq_of_follow_dots hdots ((hmid dots).symm.trans h)
    have hnil := hmid []
    rwa [List.append_nil, follow] at hnil

end Dots

/-! ## Beginnings of a path -/

section Beginning

variable {p : Text} {place : Place}

/-- **A beginning of a path leads where the pieces lead up to which the path is spelled**, if
this is a directory. -/
theorem resolve_upTo (hproblem : pathProblem? p = none) {front : List Text}
    (hfront : front <+: Text.pieces '/' p) (hne : upTo p front ≠ [])
    (h : t.follow linkLimit (startOf t.working p) (filled front) = .ok place)
    (hplace : t.at? place = some .directory) : t.resolve (upTo p front) = .ok place := by
  obtain ⟨dots, hfilled, hdots⟩ := exists_filled_eq front
  obtain ⟨dots', hsteps, hdots'⟩ := exists_steps_eq (upTo p front)
  rw [hfilled] at h
  obtain ⟨links, hfollow⟩ := exists_follow_append (follow_of_append_dots hdots h)
  have htaken := pathProblem?_of_isPrefix (Path.upTo_isPrefix hfront) hne hproblem
  refine resolve_eq_ok_iff.mpr ⟨htaken, ?_⟩
  rw [startOf_upTo hfront hne, hsteps, filled_pieces_upTo hfront, hfollow, ← List.append_nil dots',
    follow_dots_append hdots' hplace, follow]

theorem ne_nil_of_resolve (h : t.resolve p = .ok place) : p ≠ [] :=
  (pathProblem?_eq_none_iff.mp (resolve_eq_ok_iff.mp h).1).2.1

/-- The pieces of a path lead where the path leads. -/
theorem follow_filled_of_resolve (h : t.resolve p = .ok place) :
    t.follow linkLimit (startOf t.working p) (filled (Text.pieces '/' p)) = .ok place := by
  obtain ⟨dots, hsteps, hdots⟩ := exists_steps_eq p
  have hfollow := (resolve_eq_ok_iff.mp h).2
  rw [hsteps] at hfollow
  exact follow_of_append_dots hdots hfollow

/-- **A path to a directory leads there without what means nothing at its end.** -/
theorem resolve_tidied (h : t.resolve p = .ok place) (hplace : t.at? place = some .directory) :
    t.resolve (tidied p) = .ok place :=
  resolve_upTo (resolve_eq_ok_iff.mp h).1 List.prefix_rfl
    (Path.tidied_ne_nil (ne_nil_of_resolve h)) (follow_filled_of_resolve h) hplace

/-- **A path leads to some directory before its last piece**, and then its last piece leads on. -/
theorem exists_above (h : t.resolve p = .ok place) {front : List Text} {piece : Text}
    (htrim : trimPieces (Text.pieces '/' p) = front ++ [piece]) :
    ∃ dots links above, steps p = filled front ++ piece :: dots ∧ (∀ dot ∈ dots, dot = ['.']) ∧
      t.follow linkLimit (startOf t.working p) (filled front) = .ok above ∧
      t.at? above = some .directory ∧ t.follow links above [piece] = .ok place := by
  obtain ⟨dots, hfilled, hdots⟩ := exists_filled_eq (Text.pieces '/' p)
  obtain ⟨dots', hsteps, hdots'⟩ := exists_steps_eq p
  have hpiece : piece ≠ [] := by
    have hkept := Path.isComponent_of_trimPieces htrim
    rw [Path.isComponent, Bool.and_eq_true] at hkept
    exact bne_iff_ne.mp hkept.1
  have hfollow := follow_filled_of_resolve h
  rw [hfilled] at hfollow
  replace hfollow := follow_of_append_dots hdots hfollow
  rw [htrim, filled_concat hpiece] at hfollow
  rw [hfilled, htrim, filled_concat hpiece] at hsteps
  rcases follow_append t linkLimit (startOf t.working p) (filled front) with
    ⟨problem, hfail⟩ | ⟨links, above, habove⟩
  · cases hfollow.symm.trans (hfail [piece])
  · rw [habove] at hfollow
    have hnil := habove []
    rw [List.append_nil, follow] at hnil
    refine ⟨dots ++ dots', links, above, ?_, ?_, hnil, at?_of_follow_cons hfollow, hfollow⟩
    · rw [hsteps]
      simp
    · intro dot hdot
      exact (List.mem_append.mp hdot).elim (hdots dot) (hdots' dot)

end Beginning

/-! ## The directory above -/

/-- The directory above the one that a path leads to, and what it holds there: the directory in
which the last name of the path is looked up, which may find a link, and that name.  A path that
ends in dots has no name, and it is what lies above the place itself. -/
inductive Above (t : Tree) (p : Text) (above : Place) (name : Text) : Prop where
  | named {front dots : List Text} (hname : Path.name? p = some name)
      (hsteps : steps p = front ++ name :: dots) (hdots : ∀ dot ∈ dots, dot = ['.'])
      (habove : t.follow linkLimit (startOf t.working p) front = .ok above)
  | unnamed (hname : Path.name? p = none) (hplace : t.resolve p = .ok (above ++ [name]))

section Above

variable {p parent name : Text} {place above : Place}

/-- The directory above holds the directory that the path leads to, or a link. -/
theorem Above.eq_or_link (h : t.Above p above name) (hresolve : t.resolve p = .ok place) :
    place = above ++ [name] ∨ ∃ target, t.at? (above ++ [name]) = some (.link target) := by
  cases h with
  | named hname hsteps hdots habove =>
    obtain ⟨links, hlinks⟩ := exists_follow_append habove
    have hfollow := (resolve_eq_ok_iff.mp hresolve).2
    rw [hsteps, hlinks] at hfollow
    replace hfollow : t.follow links above [name] = .ok place := follow_of_append_dots hdots hfollow
    by_cases hlink : ∃ target, t.at? (above ++ [name]) = some (.link target)
    · exact Or.inr hlink
    · exact Or.inl (eq_of_follow_name (Path.isName_of_name? hname) (not_exists.mp hlink) hfollow)
  | unnamed hname hplace => exact Or.inl (Except.ok.inj (hresolve.symm.trans hplace))

theorem resolve_nil (t : Tree) : t.resolve [] = .error .notFound := rfl

/-- A path that has no piece that means something leads to the root, or to where it starts. -/
theorem eq_nil_of_trimPieces_eq_nil (hresolve : t.resolve p = .ok place)
    (hnil : trimPieces (Text.pieces '/' p) = []) : place = [] := by
  obtain ⟨dots, hfilled, hdots⟩ := exists_filled_eq (Text.pieces '/' p)
  have hfollow := follow_filled_of_resolve hresolve
  rw [hfilled, hnil] at hfollow
  have habsolute : Path.isAbsolute p = true := by
    by_contra hrelative
    refine Path.tidied_ne_nil (ne_nil_of_resolve hresolve) ?_
    exact (Path.upTo_eq_nil_iff List.prefix_rfl).mpr ⟨hnil, Bool.eq_false_iff.mpr hrelative⟩
  rw [eq_of_follow_dots hdots hfollow, startOf, if_pos habsolute]

/-- Dots lead nowhere further down. -/
theorem length_le_of_follow_dots {links : Nat} {piece : Text}
    (hpiece : piece = ['.'] ∨ piece = ['.', '.']) (h : t.follow links above [piece] = .ok place) :
    place.length ≤ above.length := by
  rw [follow] at h
  split at h
  · cases h
  · rcases hpiece with rfl | rfl
    · rw [if_pos rfl, follow] at h
      obtain rfl := Except.ok.inj h
      exact Nat.le_refl _
    · rw [if_neg (by decide), if_pos rfl, follow] at h
      obtain rfl := Except.ok.inj h
      rw [List.length_dropLast]
      exact Nat.sub_le _ _

/-- **The parent of a path leads to the directory above** if the path has a name, and otherwise
to one that is not above.  Only an empty parent leads nowhere. -/
theorem resolve_parent (hresolve : t.resolve p = .ok place)
    (hparent : Path.parent? p = some parent) (hne : parent ≠ []) :
    ∃ above, t.resolve parent = .ok above ∧ t.at? above = some .directory ∧
      (∀ name, Path.name? p = some name → t.Above p above name) ∧
      (Path.name? p = none → place.length ≤ above.length) := by
  obtain ⟨front, piece, htrim, rfl⟩ := Path.parent?_eq_some_iff.mp hparent
  obtain ⟨dots, links, above, hsteps, hdots, habove, hdirectory, hplace⟩ :=
    exists_above hresolve htrim
  have hfront : front <+: Text.pieces '/' p := Path.isPrefix_of_trimPieces htrim
  refine ⟨above, ?_, hdirectory, fun name hname => ?_, fun hname => ?_⟩
  · exact resolve_upTo (resolve_eq_ok_iff.mp hresolve).1 hfront hne habove hdirectory
  · obtain ⟨⟨front', htrim'⟩, -, -⟩ := Path.name?_eq_some_iff.mp hname
    obtain ⟨-, hpiece⟩ := List.append_inj' (htrim.symm.trans htrim') rfl
    obtain rfl := List.singleton_inj.mp hpiece
    exact .named hname hsteps hdots habove
  · refine length_le_of_follow_dots ?_ hplace
    by_contra hpiece
    obtain ⟨hdot, hdots'⟩ := not_or.mp hpiece
    have hsome := Path.name?_eq_some_iff.mpr ⟨⟨front, htrim⟩, hdot, hdots'⟩
    cases hname.symm.trans hsome

end Above

/-! ## What a directory shows under two paths -/

section Listing

variable {directory name : Text} {place : Place}

theorem startOf_child (hname : IsName name) (hne : directory ≠ []) (place : Place) :
    startOf place (child directory name) = startOf place directory := by
  rw [startOf, startOf, Path.isAbsolute_child hname hne]

theorem mem_child (hname : IsName name) {c : Char} (hc : c ∈ name) (directory : Text) :
    c ∈ child directory name := by
  rw [child, hname.isAbsolute_eq, if_neg Bool.false_ne_true]
  split
  · exact hc
  · split
    · exact List.mem_append_right _ hc
    · exact List.mem_append_right _ hc

theorem le_size_child (hname : IsName name) (hne : directory ≠ []) :
    Utf8.size directory + Utf8.size name ≤ Utf8.size (child directory name) := by
  rw [child, hname.isAbsolute_eq, if_neg Bool.false_ne_true, if_neg (by rwa [List.isEmpty_iff])]
  split
  · rw [Utf8.size_append]
  · rw [Utf8.size_append, Utf8.size_append]
    omega

theorem size_child_tidied_le (hname : IsName name) (hne : directory ≠ []) :
    Utf8.size (child (tidied directory) name) ≤ Utf8.size (child directory name) := by
  have hslash : Utf8.size ['/'] = 1 := rfl
  have hle : Utf8.size (child (tidied directory) name) ≤
      Utf8.size (tidied directory) + 1 + Utf8.size name := by
    rw [child, hname.isAbsolute_eq, if_neg Bool.false_ne_true]
    split
    · omega
    · split
      · rw [Utf8.size_append]
        omega
      · rw [Utf8.size_append, Utf8.size_append, hslash]
  have hge := le_size_child hname hne
  obtain ⟨rest, hrest⟩ := Path.tidied_isPrefix directory
  rcases rest with _ | ⟨c, rest⟩
  · rw [List.append_nil] at hrest
    rw [hrest]
  · have hsize : Utf8.size directory = Utf8.size (tidied directory) + Utf8.size (c :: rest) := by
      rw [← Utf8.size_append, hrest]
    have hpos : 1 ≤ Utf8.size (c :: rest) := by
      have hc := c.utf8Size_pos
      rw [Utf8.size_eq_sum, List.map_cons, List.sum_cons]
      omega
    omega

/-- What is wrong with a path in a directory that is not too long can only be the name. -/
theorem pathProblem?_child (hname : IsName name) (hproblem : pathProblem? directory = none)
    (hshort : Utf8.size (child directory name) < pathLimit) :
    pathProblem? (child directory name) = if '\x00' ∈ name then some .zeroByte else none := by
  obtain ⟨hzero, -, -⟩ := pathProblem?_eq_none_iff.mp hproblem
  split
  · next hmem => simp [pathProblem?, mem_child hname hmem directory]
  · next hnot =>
    refine pathProblem?_eq_none_iff.mpr ⟨fun hmem => ?_, Path.child_ne_nil hname directory, hshort⟩
    rcases Path.mem_of_mem_child hmem with hmem | hmem | hmem
    · exact hzero hmem
    · exact hnot hmem
    · cases hmem

variable (hresolve : t.resolve directory = .ok place) (hplace : t.at? place = some .directory)
include hresolve hplace

theorem follow_child_tidied (hname : IsName name) :
    t.follow linkLimit (startOf t.working (child (tidied directory) name))
        (steps (child (tidied directory) name)) =
      t.follow linkLimit (startOf t.working (child directory name))
        (steps (child directory name)) := by
  have hne := ne_nil_of_resolve hresolve
  obtain ⟨dots, hfilled, hdots⟩ := exists_filled_eq (Text.pieces '/' directory)
  have hfollow := follow_filled_of_resolve hresolve
  rw [hfilled] at hfollow
  obtain ⟨links, hlinks⟩ := exists_follow_append (follow_of_append_dots hdots hfollow)
  rw [startOf_child hname hne, startOf_child hname (Path.tidied_ne_nil hne), steps_child hname,
    steps_child hname, tidied, filled_pieces_upTo List.prefix_rfl,
    startOf_upTo List.prefix_rfl (Path.tidied_ne_nil hne), hfilled, hlinks, List.append_assoc,
    hlinks, follow_dots_append hdots hplace]

variable (hname : IsName name) (hshort : Utf8.size (child directory name) < pathLimit)
include hname hshort

theorem pathProblem?_child_tidied :
    pathProblem? (child (tidied directory) name) = pathProblem? (child directory name) := by
  have hne := ne_nil_of_resolve hresolve
  have htidied := (resolve_eq_ok_iff.mp (resolve_tidied hresolve hplace)).1
  have hle := size_child_tidied_le hname hne
  rw [pathProblem?_child hname htidied (by omega),
    pathProblem?_child hname (resolve_eq_ok_iff.mp hresolve).1 hshort]

theorem resolve_child_tidied :
    t.resolve (child (tidied directory) name) = t.resolve (child directory name) := by
  rw [resolve, resolve, pathProblem?_child_tidied hresolve hplace hname hshort,
    follow_child_tidied hresolve hplace hname]

theorem listed_tidied :
    t.listed (tidied directory) place name = t.listed directory place name := by
  have hdirectory : t.isDirectory (child (tidied directory) name) =
      t.isDirectory (child directory name) := by
    rw [isDirectory, isDirectory, lookUp, lookUp,
      resolve_child_tidied hresolve hplace hname hshort]
  have hproblem := pathProblem?_child_tidied hresolve hplace hname hshort
  simp only [listed, shownSize, hdirectory, hproblem]

end Listing

/-! ## What a directory lists -/

theorem nodup_namesIn (t : Tree) (place : Place) : (t.namesIn place).Nodup :=
  Text.nodup_eraseDups _

section List

variable {directory : Text} {place : Place} {showHidden : Bool} {entries : List Listed}

theorem list_eq (hresolve : t.resolve directory = .ok place)
    (hplace : t.at? place = some .directory) (showHidden : Bool) :
    t.list showHidden directory =
      .ok ((((t.namesIn place).filter fun name => showHidden || !isHidden name).map
        (t.listed directory place)).mergeSort Listed.before) := by
  simp only [list, hresolve, hplace, if_true]

/-- A directory lists the names in it, in some order. -/
theorem perm_names_of_list (hresolve : t.resolve directory = .ok place)
    (hplace : t.at? place = some .directory) (h : t.list showHidden directory = .ok entries) :
    (entries.map Listed.name).Perm
      ((t.namesIn place).filter fun name => showHidden || !isHidden name) := by
  rw [list_eq hresolve hplace] at h
  obtain rfl := Except.ok.inj h
  refine ((List.mergeSort_perm _ _).map Listed.name).trans (List.Perm.of_eq ?_)
  rw [List.map_map]
  exact List.map_id'' (fun name => name_listed directory place name) _

/-- What lists anything is a directory. -/
theorem exists_place_of_mem_list (h : t.list showHidden directory = .ok entries) {e : Listed}
    (he : e ∈ entries) : ∃ place, t.resolve directory = .ok place ∧
      t.at? place = some .directory := by
  rw [list] at h
  split at h
  · cases h
  · next place hresolve =>
    split at h
    · next hplace => exact ⟨place, hresolve, hplace⟩
    · obtain rfl := Except.ok.inj h
      exact absurd he List.not_mem_nil

/-- No name is listed twice. -/
theorem nodup_names_of_list (h : t.list showHidden directory = .ok entries) :
    (entries.map Listed.name).Nodup := by
  rcases entries with _ | ⟨e, entries⟩
  · exact List.nodup_nil
  · obtain ⟨place, hresolve, hplace⟩ := exists_place_of_mem_list h List.mem_cons_self
    exact (perm_names_of_list hresolve hplace h).nodup_iff.mpr ((nodup_namesIn t place).filter _)

/-- **A directory lists the same without what means nothing at the end of its path**, if no path
of what it lists is too long. -/
theorem list_tidied (htree : t.WellNamed) (hresolve : t.resolve directory = .ok place)
    (hplace : t.at? place = some .directory) (h : t.list showHidden directory = .ok entries)
    (hshort : ∀ e ∈ entries, Utf8.size (child directory e.name) < pathLimit) :
    t.list showHidden (tidied directory) = .ok entries := by
  have hperm := perm_names_of_list hresolve hplace h
  rw [← h, list_eq (resolve_tidied hresolve hplace) hplace, list_eq hresolve hplace]
  congr 2
  refine List.map_congr_left fun name hmem => ?_
  have hname : IsName name := htree name (names_of_mem_namesIn (List.mem_filter.mp hmem).1)
  obtain ⟨e, he, rfl⟩ := List.mem_map.mp (hperm.mem_iff.mpr hmem)
  exact listed_tidied hresolve hplace hname (hshort e he)

end List

end Tree
end Files
end TerminalDialogs
