import TerminalDialogs.Proofs.Widget.Ascent

/-!
# There and back

Going up from a directory that was just entered comes back to the one above, whatever sizes the
picker got in between: to the same path, to the same names, and with the cursor on the directory
that was left (`File.Returned`).  Nothing depends on whether that directory could be listed.

The entries themselves are looked up again, under the path that the parent has as a text, and this
is the path from before unless that one had an end that means nothing.  Only the path from which the
picker started can have such an end (`File.inherited_tidied`).  With it the paths of the entries are
longer than without it, and if they are too long for the system a link to a directory is listed as
a file at first and as a directory afterwards (`returned_to_other_entries`).
-/

namespace TerminalDialogs

open Files (Tree Place Listed)

/-- A key that enters what is under the cursor. -/
def Key.Enters (k : Key) : Prop :=
  k.isPress = true ∧ (k.code = .right ∨ k.code = .char 'l')

namespace Widget
namespace File

variable {tree : Tree} {w u : File} {e : Listed}

theorem handleKey_of_enters {k : Key} (hk : k.Enters) (tree : Tree) (w : File) :
    w.handleKey tree k = w.descend tree := by
  obtain ⟨-, hcode⟩ := hk
  have hcancel : k.isCancel = false := by
    rcases hcode with hcode | hcode <;> simp [Key.isCancel, hcode]
  rw [handleKey, if_neg (by simp [hcancel])]
  rcases hcode with hcode | hcode
  · rw [hcode]
  · rw [hcode]
    rfl

theorem call_of_enters (hopen : w.phase = .open) {k : Key} (hk : k.Enters) :
    (Widget.file w).call (.message tree (.key k)) = .file (w.descend tree) := by
  rw [call_key hopen hk.1, handleKey_of_enters hk]

/-- Sizes change nothing but the room and what is shown of the list. -/
theorem exists_after_resizes (w : File) (sizes : List (Nat × Nat)) :
    ∃ width height position,
      (Widget.file w).after (sizes.map fun size => .resize size.1 size.2) =
        .file { w with width, height, position } := by
  induction sizes generalizing w with
  | nil => exact ⟨w.width, w.height, w.position, rfl⟩
  | cons size sizes ih =>
    obtain ⟨width, height, position, hafter⟩ := ih (w.setSize size.1 size.2)
    exact ⟨width, height, position, hafter⟩

theorem descend_of_current? (tree : Tree) (hcurrent : w.current? = some e)
    (hdirectory : e.isDirectory = true) :
    w.descend tree = openDirectory tree w (Path.child w.directory e.name) := by
  rw [descend, hcurrent]
  exact if_pos hdirectory

/-! ## The way back -/

/-- A picker that is back where another one was: at the same path, without an error, with the same
names and with the cursor on an entry of a given name. -/
structure Returned (w w' : File) (name : Text) : Prop where
  phase_eq : w'.phase = .open
  components_eq : Path.components w'.directory = Path.components w.directory
  problem_eq : w'.problem = none
  names_perm : (w'.entries.map Listed.name).Perm (w.entries.map Listed.name)
  exists_current? : ∃ e, w'.current? = some e ∧ e.name = name

section Back

variable {P : Text → Prop} (h : w.Keeps tree P) (htree : tree.WellNamed) (he : e ∈ w.entries)
  (hdirectory : u.directory = Path.child w.directory e.name) (hoptions : u.options = w.options)
include h htree he hdirectory hoptions

/-- **What is listed after going up again** is the directory under its path without what means
nothing at its end. -/
theorem exists_list_ascend : ∃ position entries,
    tree.list w.options.showHidden (Path.tidied w.directory) = .ok entries ∧
      u.ascend tree = { u with directory := Path.tidied w.directory, entries, problem := none,
                               position } := by
  obtain ⟨place, hresolve, hplace⟩ := Tree.exists_place_of_mem_list (h.list_of_mem he) he
  have hparent : Path.parent? u.directory = some (Path.tidied w.directory) := by
    rw [hdirectory]
    exact Path.parent?_child (h.isName htree he) (Tree.ne_nil_of_resolve hresolve)
  have hlist := Tree.list_eq (Tree.resolve_tidied hresolve hplace) hplace w.options.showHidden
  obtain ⟨position, hascend⟩ := exists_ascend tree hparent
  refine ⟨position, _, hlist, ?_⟩
  rw [hascend, openDirectory_of_list (by rw [hoptions]; exact hlist)]

theorem returned_ascend (hopen : u.phase = .open) : w.Returned (u.ascend tree) e.name := by
  have hwas := h.list_of_mem he
  have hname := h.isName htree he
  obtain ⟨place, hresolve, hplace⟩ := Tree.exists_place_of_mem_list hwas he
  have hne := Tree.ne_nil_of_resolve hresolve
  obtain ⟨position, entries, hlist, hascend⟩ := exists_list_ascend h htree he hdirectory hoptions
  have hnames : (entries.map Listed.name).Perm (w.entries.map Listed.name) :=
    (Tree.perm_names_of_list (Tree.resolve_tidied hresolve hplace) hplace hlist).trans
      (Tree.perm_names_of_list hresolve hplace hwas).symm
  refine ⟨?_, ?_, ?_, ?_, ?_⟩
  · rw [hascend]
    exact hopen
  · rw [hascend]
    exact Path.components_tidied hne
  · rw [hascend]
  · rw [hascend]
    exact hnames
  · have hparent : Path.parent? u.directory = some (Path.tidied w.directory) := by
      rw [hdirectory]
      exact Path.parent?_child hname hne
    refine exists_current?_ascend hparent ?_ ?_
    · rw [hdirectory]
      exact Path.name?_child hname w.directory
    · rw [hascend]
      exact List.mem_map.mp (hnames.mem_iff.mpr (List.mem_map_of_mem he))

/-- If the path had no end that means nothing, or no path of an entry is too long, the entries are
as they were. -/
theorem entries_ascend (hplain : Path.tidied w.directory = w.directory ∨
      ∀ other ∈ w.entries, Utf8.size (Path.child w.directory other.name) < Tree.pathLimit) :
    (u.ascend tree).entries = w.entries := by
  have hwas := h.list_of_mem he
  obtain ⟨place, hresolve, hplace⟩ := Tree.exists_place_of_mem_list hwas he
  obtain ⟨position, entries, hlist, hascend⟩ := exists_list_ascend h htree he hdirectory hoptions
  have hsame : tree.list w.options.showHidden (Path.tidied w.directory) = .ok w.entries := by
    rcases hplain with htidied | hshort
    · rw [htidied]
      exact hwas
    · exact Tree.list_tidied htree hresolve hplace hwas hshort
  rw [hascend]
  exact Except.ok.inj (hlist.symm.trans hsame)

end Back

/-- A cursor on the same name in the same entries is at the same position. -/
theorem cursor_eq_of_current? {w' : File} (h : (w.entries.map Listed.name).Nodup)
    (hentries : w'.entries = w.entries) {e' : Listed} (he : w.current? = some e)
    (he' : w'.current? = some e') (hname : e'.name = e.name) :
    w'.position.cursor = w.position.cursor := by
  rw [current?] at he he'
  rw [hentries] at he'
  obtain ⟨hlt, -⟩ := List.getElem?_eq_some_iff.mp he'
  rw [← List.length_map Listed.name] at hlt
  refine (List.getElem?_inj hlt h).mp ?_
  rw [List.getElem?_map, List.getElem?_map, he, he', Option.map_some, Option.map_some, hname]

/-! ## Paths without an end that means nothing -/

theorem inherited_tidied (start : Text) :
    Inherited fun directory => directory = start ∨ Path.tidied directory = directory where
  child _ hname := Or.inr (Path.tidied_child hname _)
  parent _ hparent := Or.inr (Path.tidied_parent hparent)

theorem tidied_workingPath (htree : tree.WellNamed) :
    Path.tidied (workingPath tree) = workingPath tree := by
  rcases List.eq_nil_or_concat' tree.working with hnil | ⟨above, name, hworking⟩
  · rw [workingPath, hnil]
    rfl
  · have hnames (name : Text) (hname : name ∈ tree.working) : Path.IsName name :=
      htree name (Or.inl hname)
    have hname : Path.IsName name := hnames name (by simp [hworking])
    have hpieces : Text.pieces '/' (workingPath tree) = ([] :: above) ++ [name] := by
      rw [workingPath, Text.pieces, if_pos rfl, Text.pieces_join (by simp [hworking])
        fun name hname => (hnames name hname).slash_notMem, hworking]
      rfl
    refine Path.tidied_eq_self hpieces ?_
    simp [Path.isComponent, hname.ne_nil, hname.ne_dot]

theorem tidied_startPath (htree : tree.WellNamed) (o : Options.File) :
    startPath tree o = o.path ∨ Path.tidied (startPath tree o) = startPath tree o := by
  rw [startPath]
  split
  · exact Or.inr (tidied_workingPath htree)
  · exact Or.inl rfl

end File

open File in
/-- **Right and then Left come back**: to the same path, to the same names and to the directory that
was left, whatever sizes the picker gets in between.  The entries and the cursor are the same as
well, unless the path is the one from which the picker started, has an end that means nothing and
makes the paths of its entries too long. -/
theorem left_undoes_right {tree : Tree} (htree : tree.WellNamed) {o : Options.File}
    {p : Modal.Palette} {calls : List Call} (hcalls : ∀ c ∈ calls, c.Finds tree) {w : File}
    (hw : (Widget.file (.make tree o p)).after calls = .file w) (hopen : w.phase = .open)
    {e : Listed} (hcurrent : w.current? = some e) (hdirectory : e.isDirectory = true)
    {enter leave : Key} (henter : enter.Enters) (hleave : leave.GoesUp)
    (sizes : List (Nat × Nat)) :
    ∃ w' : File, (Widget.file w).after (.message tree (.key enter) ::
          sizes.map (fun size => .resize size.1 size.2) ++ [.message tree (.key leave)]) =
        .file w' ∧ w.Returned w' e.name ∧
      ((w.directory = o.path → Path.tidied o.path = o.path ∨
          ∀ other ∈ w.entries, Utf8.size (Path.child o.path other.name) < Tree.pathLimit) →
        w'.entries = w.entries ∧ w'.position.cursor = w.position.cursor) := by
  have hkeeps := keeps_after htree (inherited_tidied o.path) (tidied_startPath htree o) hcalls hw
  have he : e ∈ w.entries := List.mem_of_getElem? hcurrent
  have hdescend := descend_of_current? tree hcurrent hdirectory
  obtain ⟨width, height, position, hresized⟩ :=
    exists_after_resizes (openDirectory tree w (Path.child w.directory e.name)) sizes
  let u : File := { openDirectory tree w (Path.child w.directory e.name) with
                    width, height, position }
  have hu : u.directory = Path.child w.directory e.name := directory_openDirectory tree w _
  have huoptions : u.options = w.options := options_openDirectory tree w _
  have huopen : u.phase = .open := (phase_openDirectory tree w _).trans hopen
  have hreturned := returned_ascend hkeeps htree he hu huoptions huopen
  refine ⟨u.ascend tree, ?_, hreturned, fun hplain => ?_⟩
  · rw [List.cons_append, after_cons, call_of_enters hopen henter, hdescend, after_append, hresized,
      after_cons, after_nil, call_of_goesUp huopen hleave]
  · have hsame : (u.ascend tree).entries = w.entries := by
      refine entries_ascend hkeeps htree he hu huoptions ?_
      rcases hkeeps.directory with hstart | htidied
      · rw [hstart]
        exact hplain hstart
      · exact Or.inl htidied
    obtain ⟨e', he', hname⟩ := hreturned.exists_current?
    exact ⟨hsame, cursor_eq_of_current? (Tree.nodup_names_of_list (hkeeps.list_of_mem he)) hsame
      hcurrent he' hname⟩

/-- A link to a directory that holds nothing is entered and left, in a window that is small for a
while. -/
theorem left_undoes_right_link :
    let tree : Tree := ⟨[(["home".toList, "a".toList, "x".toList], .file 1),
      (["home".toList, "b".toList], .link "/var".toList), (["var".toList], .directory)],
      ["home".toList]⟩
    let press (code : KeyCode) : Call := .message tree (.key { code })
    let w : File := { options := File.allowSomething {}, directory := "/home".toList,
                      entries := [⟨"a".toList, true, 0⟩, ⟨"b".toList, true, 0⟩],
                      position := ⟨1, 0⟩, palette := .standalone }
    tree.WellNamed ∧ (Widget.file (.make tree {} .standalone)).after [press .down] = .file w ∧
      ∃ w' : File, (Widget.file w).after [press .right, .resize 20 4, .resize 80 24, press .left] =
        .file w' ∧ w.Returned w' "b".toList ∧ w'.entries = w.entries ∧ w'.position.cursor = 1 := by
  intro tree press w
  have htree : tree.WellNamed := by decide
  have hfinds : ∀ c ∈ [press .down], c.Finds tree := by simp [press, Call.Finds]
  have hw : (Widget.file (.make tree {} .standalone)).after [press .down] = .file w := by
    dsimp only [w]
    cbv
  have hcurrent : w.current? = some ⟨"b".toList, true, 0⟩ := rfl
  have henter : ({ code := .right } : Key).Enters := ⟨rfl, Or.inl rfl⟩
  have hleave : ({ code := .left } : Key).GoesUp := ⟨rfl, Or.inl rfl⟩
  obtain ⟨w', hafter, hreturned, hsame⟩ :=
    left_undoes_right htree hfinds hw rfl hcurrent rfl henter hleave [(20, 4), (80, 24)]
  obtain ⟨hentries, hcursor⟩ := hsame fun _ => Or.inl rfl
  exact ⟨htree, hw, w', hafter, hreturned, hentries, hcursor⟩

/-! ## A path that is too long -/

/-- A directory that holds another one and a link to that. -/
def linkedTree : Tree :=
  ⟨[(["d".toList, "s".toList], .directory), (["d".toList, "ln".toList], .link "s".toList)], []⟩

/-- The path of the directory with slashes at its end. -/
def slashed (n : Nat) : Text := "d".toList ++ List.replicate n '/'

section Slashed

variable {n : Nat}

theorem pieces_slashed (n : Nat) :
    Text.pieces '/' (slashed n) = ["d".toList] ++ List.replicate n [] := by
  induction n with
  | zero => rfl
  | succ n ih =>
    have hmore : slashed (n + 1) = slashed n ++ '/' :: [] := by
      rw [slashed, List.replicate_succ', slashed, List.append_assoc]
    rw [hmore, Text.pieces_append_cons, ih, List.replicate_succ', ← List.append_assoc]
    rfl

theorem tidied_slashed (n : Nat) : Path.tidied (slashed n) = "d".toList := by
  rw [Path.tidied, Path.upTo, pieces_slashed, Path.trimPieces_append_replicate]
  rfl

theorem size_slashed (n : Nat) : Utf8.size (slashed n) = n + 1 := by
  have hslash : '/'.utf8Size = 1 := rfl
  have hd : Utf8.size "d".toList = 1 := rfl
  rw [slashed, Utf8.size_append, hd, Utf8.size_eq_sum, List.map_replicate, List.sum_replicate_nat,
    hslash]
  omega

theorem resolve_slashed (h : n + 1 < Tree.pathLimit) :
    linkedTree.resolve (slashed n) = .ok ["d".toList] := by
  obtain ⟨dots, hsteps, hdots⟩ := Tree.exists_steps_eq (slashed n)
  have hempty : Tree.filled (List.replicate n []) = [] := by simp [Tree.filled]
  have hplace : linkedTree.at? ["d".toList] = some .directory := by cbv
  have hfollow : linkedTree.follow Tree.linkLimit [] ["d".toList] = .ok ["d".toList] := by cbv
  obtain ⟨links, hlinks⟩ := Tree.exists_follow_append hfollow
  refine Tree.resolve_eq_ok_iff.mpr ⟨Tree.pathProblem?_eq_none_iff.mpr ⟨?_, ?_, ?_⟩, ?_⟩
  · simp [slashed]
  · simp [slashed]
  · rw [size_slashed]
    exact h
  · rw [hsteps, pieces_slashed, Tree.filled_append, hempty, List.append_nil]
    show linkedTree.follow Tree.linkLimit [] (["d".toList] ++ dots) = .ok ["d".toList]
    rw [hlinks, ← List.append_nil dots, Tree.follow_dots_append hdots hplace, Tree.follow]

/-- The link cannot be followed if its path is too long. -/
theorem listed_slashed (hlong : Tree.pathLimit ≤ n + 3) :
    linkedTree.listed (slashed n) ["d".toList] "ln".toList = ⟨"ln".toList, false, 0⟩ := by
  have hentry : linkedTree.at? (["d".toList] ++ ["ln".toList]) = some (.link "s".toList) := by cbv
  have hsize : Tree.pathLimit ≤ Utf8.size (Path.child (slashed n) "ln".toList) := by
    have hname : Path.IsName "ln".toList := by decide
    have hne : slashed n ≠ [] := by simp [slashed]
    have hle := Tree.le_size_child hname hne
    have hln : Utf8.size "ln".toList = 2 := rfl
    rw [size_slashed, hln] at hle
    omega
  obtain ⟨problem, hproblem⟩ : ∃ problem,
      Tree.pathProblem? (Path.child (slashed n) "ln".toList) = some problem := by
    refine Option.ne_none_iff_exists'.mp fun hnone => ?_
    have hshort := (Tree.pathProblem?_eq_none_iff.mp hnone).2.2
    omega
  simp only [Tree.listed, hentry, Tree.isDirectory_of_pathProblem? hproblem, Tree.shownSize,
    hproblem, Option.isSome_some, if_true, Bool.false_eq_true, if_false]

theorem list_slashed (h : n + 1 < Tree.pathLimit) (hlong : Tree.pathLimit ≤ n + 3) :
    linkedTree.list false (slashed n) =
      .ok [⟨"s".toList, true, 0⟩, ⟨"ln".toList, false, 0⟩] := by
  have hplace : linkedTree.at? ["d".toList] = some .directory := by cbv
  have hnames : (linkedTree.namesIn ["d".toList]).filter
      (fun name => false || !Files.isHidden name) = ["s".toList, "ln".toList] := by cbv
  have hentry : linkedTree.at? (["d".toList] ++ ["s".toList]) = some .directory := by cbv
  have hs : linkedTree.listed (slashed n) ["d".toList] "s".toList = ⟨"s".toList, true, 0⟩ := by
    simp only [Tree.listed, hentry]
  rw [Tree.list_eq (resolve_slashed h) hplace, hnames, List.map_cons, List.map_cons, List.map_nil,
    hs, listed_slashed hlong]
  cbv

/-- With slashes at its end the path of the directory can be so long that the link in it cannot be
followed.  Without them it can, and then it is listed in front of the directory that it leads to. -/
theorem entries_ne_of_slashed (h : n + 1 < Tree.pathLimit) (hlong : Tree.pathLimit ≤ n + 3)
    (p : Modal.Palette) :
    let w := File.make linkedTree { path := slashed n } p
    w.entries = [⟨"s".toList, true, 0⟩, ⟨"ln".toList, false, 0⟩] ∧ w.position.cursor = 0 ∧
      ((w.descend linkedTree).ascend linkedTree).entries =
        [⟨"ln".toList, true, 0⟩, ⟨"s".toList, true, 0⟩] ∧
      ((w.descend linkedTree).ascend linkedTree).position.cursor = 1 := by
  intro w
  have htree : linkedTree.WellNamed := by decide
  have hlist' : linkedTree.list false "d".toList =
      .ok [⟨"ln".toList, true, 0⟩, ⟨"s".toList, true, 0⟩] := by cbv
  have hw : w = { options := File.allowSomething { path := slashed n }, directory := slashed n,
                  entries := [⟨"s".toList, true, 0⟩, ⟨"ln".toList, false, 0⟩], palette := p } :=
    File.openDirectory_of_list (list_slashed h hlong)
  have hkeeps : w.Keeps linkedTree fun _ => True := File.keeps_make _ p trivial
  have hcurrent : w.current? = some ⟨"s".toList, true, 0⟩ := by
    rw [hw]
    rfl
  have he := List.mem_of_getElem? hcurrent
  have hdescend := File.descend_of_current? linkedTree hcurrent rfl
  have hu : (w.descend linkedTree).directory = Path.child w.directory "s".toList := by
    rw [hdescend, File.directory_openDirectory]
  have huoptions : (w.descend linkedTree).options = w.options := by
    rw [hdescend, File.options_openDirectory]
  have huopen : (w.descend linkedTree).phase = .open := by
    rw [File.phase_descend, File.phase_make]
  have hdirectory : w.directory = slashed n := File.directory_openDirectory _ _ _
  have hshow : w.options.showHidden = false := by rw [hw]; rfl
  obtain ⟨position, entries, hback, hascend⟩ :=
    File.exists_list_ascend hkeeps htree he hu huoptions
  rw [hshow, hdirectory, tidied_slashed, hlist'] at hback
  have hentries : ((w.descend linkedTree).ascend linkedTree).entries =
      [⟨"ln".toList, true, 0⟩, ⟨"s".toList, true, 0⟩] := by
    rw [hascend]
    exact (Except.ok.inj hback).symm
  refine ⟨by rw [hw], by rw [hw], hentries, ?_⟩
  obtain ⟨e, hon, hname⟩ :=
    (File.returned_ascend hkeeps htree he hu huoptions huopen).exists_current?
  rw [File.current?, hentries] at hon
  -- the cursor is on the second entry, as the first one has another name
  rcases hcursor : ((w.descend linkedTree).ascend linkedTree).position.cursor with _ | _ | i
  · rw [hcursor] at hon
    obtain rfl := Option.some.inj hon
    exact absurd hname (by decide)
  · rfl
  · rw [hcursor] at hon
    cases hon

end Slashed

/-- A link that is listed as a file at first is listed as a directory afterwards. -/
theorem returned_to_other_entries :
    let o : Options.File := { path := slashed 4093 }
    let w := File.make linkedTree o .standalone
    let press (code : KeyCode) : Call := .message linkedTree (.key { code })
    linkedTree.WellNamed ∧ w.phase = .open ∧
      (∃ e, w.current? = some e ∧ e.isDirectory = true) ∧
      ∃ w' : File, (Widget.file w).after [press .right, press .left] = .file w' ∧
        w'.entries ≠ w.entries ∧ w'.position.cursor ≠ w.position.cursor := by
  intro o w press
  obtain ⟨hentries, hcursor, hentries', hcursor'⟩ :=
    entries_ne_of_slashed (n := 4093) (by decide) (by decide) .standalone
  have hopen : w.phase = .open := File.phase_make _ _ _
  have hopen' : (w.descend linkedTree).phase = .open := by rw [File.phase_descend, hopen]
  have hcurrent : w.current? = some ⟨"s".toList, true, 0⟩ := by
    rw [File.current?, hentries, hcursor]
    rfl
  refine ⟨by decide, hopen, ⟨_, hcurrent, rfl⟩, (w.descend linkedTree).ascend linkedTree,
    ?_, ?_, ?_⟩
  · rw [after_cons, File.call_of_enters hopen ⟨rfl, Or.inl rfl⟩, after_cons, after_nil,
      File.call_of_goesUp hopen' ⟨rfl, Or.inl rfl⟩]
  · rw [hentries, hentries']
    decide
  · rw [hcursor, hcursor']
    decide

end Widget
end TerminalDialogs
