import TerminalDialogs.Proofs.Files.Upward
import TerminalDialogs.Proofs.Widget.Picked

/-!
# Going up

The way up from a directory is found in its path: the picker lists the parent of the path and puts
its cursor on the name that was cut off.  Where a path has a name and its parent is not empty,
this is the directory above, which holds the one that was left, or the link through which it was
entered (`File.ascended_iff`).

A path that goes down from the root keeps both of these, whatever keys are pressed
(`Path.Rooted`), and so do those of the working directory, from which the picker starts if it is
given no path.  But a path can be relative, and then its last piece is a name without a parent.

What is known of the path that is listed is kept along all keys by one invariant
(`File.Keeps`), for any property of paths that children and parents inherit.
-/

namespace TerminalDialogs

open Files (Tree Place Listed)

/-- A key that goes up. -/
def Key.GoesUp (k : Key) : Prop :=
  k.isPress = true ∧ (k.code = .left ∨ k.code = .char 'h' ∨ k.code = .backspace)

theorem ListCursor.cursor_move_forward {count i : Nat} (h : i < count) (rows : Nat) :
    (ListCursor.move count rows (.forward i) {}).cursor = i := by
  have hcount : count ≠ 0 := by omega
  rw [ListCursor.move, if_neg hcount, ListCursor.cursor_reveal]
  show min (0 + i) (count - 1) = i
  omega

namespace Widget

theorem call_key {tree : Tree} {w : File} (hopen : w.phase = .open) {k : Key}
    (hk : k.isPress = true) :
    (Widget.file w).call (.message tree (.key k)) = .file (w.handleKey tree k) := by
  have hdone : (Widget.file w).isDone = false := by
    rw [isDone, phase, hopen]
    rfl
  simp only [call, update, hdone, hk, if_true, Bool.false_eq_true, if_false, handleKey]

namespace File

variable {tree : Tree} {w : File} {directory parent name : Text}

/-! ## Opening a directory -/

theorem openDirectory_of_list {entries : List Listed}
    (h : tree.list w.options.showHidden directory = .ok entries) :
    openDirectory tree w directory =
      { w with directory, entries, problem := none, position := {} } := by
  rw [openDirectory, h]

section Opened

variable (tree w directory)

@[simp] theorem directory_openDirectory :
    (openDirectory tree w directory).directory = directory := by
  rw [openDirectory]
  split
  · rfl
  · rfl

@[simp] theorem options_openDirectory : (openDirectory tree w directory).options = w.options := by
  rw [openDirectory]
  split
  · rfl
  · rfl

@[simp] theorem position_openDirectory : (openDirectory tree w directory).position = {} := by
  rw [openDirectory]
  split
  · rfl
  · rfl

theorem entries_openDirectory : (openDirectory tree w directory).entries =
    (tree.list w.options.showHidden directory).toOption.getD [] := by
  rw [openDirectory]
  split
  · next hlist =>
    rw [hlist]
    rfl
  · next hlist =>
    rw [hlist]
    rfl

end Opened

/-- Going up opens the parent, with the cursor somewhere. -/
theorem exists_ascend (tree : Tree) (h : Path.parent? w.directory = some parent) :
    ∃ position, w.ascend tree = { openDirectory tree w parent with position } := by
  rw [ascend, h]
  dsimp only
  split
  · exact ⟨_, rfl⟩
  · split
    · exact ⟨_, rfl⟩
    · exact ⟨_, rfl⟩

theorem handleKey_of_goesUp {k : Key} (hk : k.GoesUp) (tree : Tree) (w : File) :
    w.handleKey tree k = w.ascend tree := by
  obtain ⟨-, hcode⟩ := hk
  have hcancel : k.isCancel = false := by
    rcases hcode with hcode | hcode | hcode <;> simp [Key.isCancel, hcode]
  rw [handleKey, if_neg (by simp [hcancel])]
  rcases hcode with hcode | hcode | hcode
  · rw [hcode]
  · rw [hcode]
    rfl
  · rw [hcode]

theorem call_of_goesUp (hopen : w.phase = .open) {k : Key} (hk : k.GoesUp) :
    (Widget.file w).call (.message tree (.key k)) = .file (w.ascend tree) := by
  rw [call_key hopen hk.1, handleKey_of_goesUp hk]

/-- Going up finds the name that was cut off, if it is listed. -/
theorem exists_current?_ascend (hparent : Path.parent? w.directory = some parent)
    (hname : Path.name? w.directory = some name)
    (hlisted : ∃ e ∈ (w.ascend tree).entries, e.name = name) :
    ∃ e, (w.ascend tree).current? = some e ∧ e.name = name := by
  obtain ⟨position, hascend⟩ := exists_ascend tree hparent
  have hentries : (w.ascend tree).entries = (openDirectory tree w parent).entries := by
    rw [hascend]
  rw [hentries] at hlisted
  rw [ascend, hparent, hname]
  dsimp only
  split
  · next hnone =>
    obtain ⟨e, he, heq⟩ := hlisted
    have hfound := List.findIdx?_eq_none_iff.mp hnone e he
    exact absurd heq (by simpa using hfound)
  · next i hsome =>
    obtain ⟨hi, hfound, -⟩ := List.findIdx?_eq_some_iff_getElem.mp hsome
    refine ⟨_, ?_, beq_iff_eq.mp hfound⟩
    rw [current?, move, position_openDirectory, ListCursor.cursor_move_forward hi]
    exact List.getElem?_eq_getElem hi

/-! ## What keys keep -/

/-- A property of paths that goes down to what a directory holds, and up to the parent. -/
structure Inherited (P : Text → Prop) : Prop where
  child : ∀ {directory name}, P directory → Path.IsName name → P (Path.child directory name)
  parent : ∀ {directory parent}, P directory → Path.parent? directory = some parent → P parent

/-- A picker whose entries are those of the directory that it lists, under a path with some
property. -/
structure Keeps (tree : Tree) (P : Text → Prop) (w : File) : Prop where
  directory : P w.directory
  entries_eq : w.entries = (tree.list w.options.showHidden w.directory).toOption.getD []

namespace Keeps

variable {P : Text → Prop}

theorem openDirectory (tree : Tree) (w : File) (hdirectory : P directory) :
    (File.openDirectory tree w directory).Keeps tree P where
  directory := by
    rw [directory_openDirectory]
    exact hdirectory
  entries_eq := by
    rw [entries_openDirectory, options_openDirectory, directory_openDirectory]

theorem move (h : w.Keeps tree P) (m : ListCursor.Motion) : (w.move m).Keeps tree P :=
  ⟨h.directory, h.entries_eq⟩

theorem setSize (h : w.Keeps tree P) (width height : Nat) :
    (w.setSize width height).Keeps tree P :=
  move (w := { w with width, height }) ⟨h.directory, h.entries_eq⟩ (.forward 0)

/-- What is listed could be listed. -/
theorem list_of_mem (h : w.Keeps tree P) {e : Listed} (he : e ∈ w.entries) :
    tree.list w.options.showHidden w.directory = .ok w.entries := by
  have hentries := h.entries_eq
  cases hlist : tree.list w.options.showHidden w.directory with
  | error problem =>
    rw [hlist] at hentries
    rw [hentries] at he
    exact absurd he List.not_mem_nil
  | ok entries =>
    rw [hlist] at hentries
    rw [hentries]
    rfl

theorem isName (h : w.Keeps tree P) (htree : tree.WellNamed) {e : Listed} (he : e ∈ w.entries) :
    Path.IsName e.name :=
  htree e.name (Tree.names_of_mem_list (h.list_of_mem he) he)

/-- A step leads to a directory that is listed, to the parent, or nowhere else. -/
theorem step (h : w.Keeps tree P) (htree : tree.WellNamed) (hP : Inherited P) {w' : File}
    (hstep : Step tree w w') : w'.Keeps tree P := by
  cases hstep with
  | same => exact h
  | cancelled => exact ⟨h.directory, h.entries_eq⟩
  | moved m => exact h.move m
  | entered he hdirectory => exact openDirectory tree w (hP.child h.directory (h.isName htree he))
  | left hparent => exact openDirectory tree w (hP.parent h.directory hparent)
  | leftTo hparent m => exact (openDirectory tree w (hP.parent h.directory hparent)).move m
  | picked he hallowed => exact ⟨h.directory, h.entries_eq⟩

theorem handleKey (h : w.Keeps tree P) (htree : tree.WellNamed) (hP : Inherited P) (k : Key) :
    (w.handleKey tree k).Keeps tree P :=
  h.step htree hP (step_handleKey tree w k)

end Keeps

/-- The path from which a picker starts. -/
def startPath (tree : Tree) (o : Options.File) : Text :=
  if o.path.isEmpty then workingPath tree else o.path

theorem keeps_make {P : Text → Prop} (o : Options.File) (p : Modal.Palette)
    (hstart : P (startPath tree o)) : (make tree o p).Keeps tree P where
  directory := by
    rw [make, directory_openDirectory]
    exact hstart
  entries_eq := by
    rw [make, entries_openDirectory, options_openDirectory, directory_openDirectory]

/-- **What paths inherit holds of every path that is listed** if it holds of the first one. -/
theorem keeps_after {P : Text → Prop} (htree : tree.WellNamed) (hP : Inherited P)
    {o : Options.File} {p : Modal.Palette} (hstart : P (startPath tree o)) {calls : List Call}
    (hcalls : ∀ c ∈ calls, c.Finds tree)
    (hw : (Widget.file (.make tree o p)).after calls = .file w) : w.Keeps tree P := by
  obtain ⟨w', hw', hkeeps⟩ := File.after_invariant (P := Keeps tree P)
    (fun _ k h => h.handleKey htree hP k) (fun _ width height h => h.setSize width height)
    (keeps_make o p hstart) hcalls
  obtain rfl := Widget.file.inj (hw.symm.trans hw')
  exact hkeeps

/-! ## The directory above -/

/-- A picker that lists the directory at some place. -/
structure Lists (tree : Tree) (w : File) (place : Place) : Prop where
  resolve_eq : tree.resolve w.directory = .ok place
  at?_eq : tree.at? place = some .directory
  list_eq : tree.list w.options.showHidden w.directory = .ok w.entries
  problem_eq : w.problem = none

/-- A picker that has gone up from what another one lists: it lists the directory above, without
an error, and its cursor is on what it came from if this is listed. -/
def Ascended (tree : Tree) (w w' : File) : Prop :=
  ∃ above name, tree.Above w.directory above name ∧ w'.Lists tree above ∧
    ((∃ e ∈ w'.entries, e.name = name) → ∃ e, w'.current? = some e ∧ e.name = name)

theorem lists_openDirectory {place : Place} (hresolve : tree.resolve directory = .ok place)
    (hplace : tree.at? place = some .directory) (w : File) :
    (openDirectory tree w directory).Lists tree place := by
  have hlist := Tree.list_eq hresolve hplace w.options.showHidden
  rw [openDirectory_of_list hlist]
  exact ⟨hresolve, hplace, hlist, rfl⟩

theorem Lists.of_position {place : Place} (h : w.Lists tree place) (position : ListCursor) :
    { w with position }.Lists tree place :=
  ⟨h.resolve_eq, h.at?_eq, h.list_eq, h.problem_eq⟩

section Ascended

variable {place : Place} (hresolve : tree.resolve w.directory = .ok place)
include hresolve

/-- A path with a name whose parent is not empty leads up. -/
theorem ascended_ascend (hname : Path.name? w.directory = some name)
    (hparent : Path.parent? w.directory = some parent) (hne : parent ≠ []) :
    w.Ascended tree (w.ascend tree) := by
  obtain ⟨above, habove, hdirectory, hnamed, -⟩ := Tree.resolve_parent hresolve hparent hne
  refine ⟨above, name, hnamed name hname, ?_, exists_current?_ascend hparent hname⟩
  obtain ⟨position, hascend⟩ := exists_ascend tree hparent
  rw [hascend]
  exact (lists_openDirectory habove hdirectory w).of_position position

/-- From below the root there is a parent. -/
theorem exists_parent? (hroot : place ≠ []) : ∃ parent, Path.parent? w.directory = some parent := by
  cases hparent : Path.parent? w.directory with
  | some parent => exact ⟨parent, rfl⟩
  | none =>
    refine absurd (Tree.eq_nil_of_trimPieces_eq_nil hresolve ?_) hroot
    rw [Path.parent?] at hparent
    split at hparent
    · next hnil => exact hnil
    · cases hparent

/-- **Going up leads up exactly if the path has a name and its parent is not empty.** -/
theorem ascended_iff (hroot : place ≠ []) : w.Ascended tree (w.ascend tree) ↔
    Path.name? w.directory ≠ none ∧ Path.parent? w.directory ≠ some [] := by
  obtain ⟨parent, hparent⟩ := exists_parent? hresolve hroot
  constructor
  · rintro ⟨above, name, habove, hlists, -⟩
    have hlisted := hlists.resolve_eq
    obtain ⟨position, hascend⟩ := exists_ascend tree hparent
    rw [hascend, directory_openDirectory] at hlisted
    have hne := Tree.ne_nil_of_resolve hlisted
    refine ⟨fun hname => ?_, ?_⟩
    · -- a path that ends in dots leads up from its parent, not down
      cases habove with
      | named hsome => cases hname.symm.trans hsome
      | unnamed _ hplace =>
        obtain ⟨above', hlisted', -, -, hunnamed⟩ := Tree.resolve_parent hresolve hparent hne
        obtain rfl := Except.ok.inj (hlisted.symm.trans hlisted')
        obtain rfl := Except.ok.inj (hresolve.symm.trans hplace)
        have hlength := hunnamed hname
        rw [List.length_append, List.length_singleton] at hlength
        omega
    · rw [hparent]
      exact fun hempty => hne (Option.some.inj hempty)
  · rintro ⟨hname, hempty⟩
    obtain ⟨name, hname⟩ := Option.ne_none_iff_exists'.mp hname
    refine ascended_ascend hresolve hname hparent ?_
    rintro rfl
    exact hempty hparent

end Ascended

/-! ## From the root down -/

theorem inherited_rooted : Inherited Path.Rooted where
  child h hname := h.child hname
  parent h hparent := h.parent hparent

theorem ascended_of_rooted {place : Place} (h : Path.Rooted w.directory)
    (hresolve : tree.resolve w.directory = .ok place) (hroot : place ≠ []) :
    w.Ascended tree (w.ascend tree) := by
  obtain ⟨parent, hparent⟩ := exists_parent? hresolve hroot
  obtain ⟨name, hname⟩ := h.exists_name? fun hnil =>
    hroot (Tree.eq_nil_of_trimPieces_eq_nil hresolve hnil)
  exact ascended_ascend hresolve hname hparent (h.parent hparent).ne_nil

theorem rooted_workingPath (htree : tree.WellNamed) : Path.Rooted (workingPath tree) := by
  refine ⟨rfl, fun hmem => ?_⟩
  rw [workingPath, Text.pieces, if_pos rfl] at hmem
  rcases List.mem_cons.mp hmem with hmem | hmem
  · cases hmem
  · by_cases hnil : tree.working = []
    · rw [hnil] at hmem
      exact absurd hmem (by decide)
    · have hnames (name : Text) (hname : name ∈ tree.working) : Path.IsName name :=
        htree name (Or.inl hname)
      rw [Text.pieces_join hnil fun name hname => (hnames name hname).slash_notMem] at hmem
      exact (hnames _ hmem).ne_dots rfl

theorem rooted_startPath (htree : tree.WellNamed) {o : Options.File}
    (h : o.path = [] ∨ Path.Rooted o.path) : Path.Rooted (startPath tree o) := by
  rw [startPath]
  split
  · exact rooted_workingPath htree
  · next hpath =>
    rw [List.isEmpty_iff] at hpath
    exact h.resolve_left hpath

end File

open File in
/-- **Left goes up exactly if the path that is listed has a name and a parent that is not empty**,
whatever keys were pressed before; and it always does if the path from which the picker started was
one from the root down, or none was given.  What lies above holds the directory that is left, or the
link through which it was entered. -/
theorem left_ascends_iff {tree : Tree} (htree : tree.WellNamed) {o : Options.File}
    {p : Modal.Palette} {calls : List Call} (hcalls : ∀ c ∈ calls, c.Finds tree) {w : File}
    (hw : (Widget.file (.make tree o p)).after calls = .file w) (hopen : w.phase = .open)
    {place : Place} (hresolve : tree.resolve w.directory = .ok place) (hroot : place ≠ [])
    {k : Key} (hk : k.GoesUp) :
    ∃ w' : File, (Widget.file w).call (.message tree (.key k)) = .file w' ∧
      (w.Ascended tree w' ↔ Path.name? w.directory ≠ none ∧ Path.parent? w.directory ≠ some []) ∧
      (o.path = [] ∨ Path.Rooted o.path → w.Ascended tree w') ∧
      ∀ above name, tree.Above w.directory above name →
        place = above ++ [name] ∨ ∃ target, tree.at? (above ++ [name]) = some (.link target) := by
  refine ⟨w.ascend tree, call_of_goesUp hopen hk, ascended_iff hresolve hroot, fun hstart => ?_,
    fun above name habove => habove.eq_or_link hresolve⟩
  have hkeeps := keeps_after htree inherited_rooted (rooted_startPath htree hstart) hcalls hw
  exact ascended_of_rooted hkeeps.directory hresolve hroot

/-- A directory that was entered through a link is left for the one that holds the link, though it
lies elsewhere. -/
theorem left_ascends_iff_link :
    let tree : Tree := ⟨[(["a".toList, "x".toList], .directory),
      (["b".toList, "l".toList], .link "../a".toList), (["b".toList, "m".toList], .file 1)], []⟩
    let o : Options.File := { path := "/b/.".toList }
    let press (code : KeyCode) : Call := .message tree (.key { code })
    let w : File := { options := File.allowSomething o, directory := "/b/./l".toList,
                      entries := [⟨"x".toList, true, 0⟩], palette := .standalone }
    tree.WellNamed ∧ Path.Rooted o.path ∧
      (Widget.file (.make tree o .standalone)).after [press .right] = .file w ∧
      tree.resolve w.directory = .ok ["a".toList] ∧
      ∃ w', (Widget.file w).call (press .left) = .file w' ∧ w.Ascended tree w' := by
  intro tree o press w
  have htree : tree.WellNamed := by decide
  have hrooted : Path.Rooted o.path := by decide
  have hfinds : ∀ c ∈ [press .right], c.Finds tree := by simp [press, Call.Finds]
  have hw : (Widget.file (.make tree o .standalone)).after [press .right] = .file w := by
    dsimp only [w]
    cbv
  have hresolve : tree.resolve w.directory = .ok ["a".toList] := by cbv
  have hk : ({ code := .left } : Key).GoesUp := ⟨rfl, Or.inl rfl⟩
  obtain ⟨w', hcall, -, hascended, -⟩ :=
    left_ascends_iff htree hfinds hw rfl hresolve (by decide) hk
  exact ⟨htree, hrooted, hw, hresolve, w', hcall, hascended (Or.inr hrooted)⟩

/-- A relative path of one piece is left for nowhere. -/
theorem left_lost_relative :
    let tree : Tree := ⟨[(["sub".toList, "x".toList], .file 1)], []⟩
    let o : Options.File := { path := "sub".toList }
    let w := File.make tree o .standalone
    tree.WellNamed ∧ w.Lists tree ["sub".toList] ∧
      ∃ w' : File, (Widget.file w).call (.message tree (.key { code := .left })) = .file w' ∧
        w'.problem ≠ none ∧ ¬ w.Ascended tree w' := by
  intro tree o w
  have hresolve : tree.resolve o.path = .ok ["sub".toList] := by cbv
  have hplace : tree.at? ["sub".toList] = some .directory := by cbv
  have hdirectory : w.directory = o.path := File.directory_openDirectory _ _ _
  have hparent : Path.parent? w.directory = some [] := by
    rw [hdirectory]
    decide
  have hopen : w.phase = .open := File.phase_make tree o .standalone
  have hk : ({ code := .left } : Key).GoesUp := ⟨rfl, Or.inl rfl⟩
  refine ⟨by decide, File.lists_openDirectory hresolve hplace _, w.ascend tree,
    File.call_of_goesUp hopen hk, ?_, ?_⟩
  · -- the empty path cannot be listed
    obtain ⟨position, hascend⟩ := File.exists_ascend tree hparent
    rw [hascend, File.openDirectory, Tree.list, Tree.resolve_nil]
    exact Option.some_ne_none _
  · rw [← hdirectory] at hresolve
    rw [File.ascended_iff hresolve (List.cons_ne_nil _ _)]
    exact fun h => h.2 hparent

end Widget
end TerminalDialogs
