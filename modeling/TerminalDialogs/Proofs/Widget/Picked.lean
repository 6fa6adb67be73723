import Mathlib
import TerminalDialogs.Prompt
import TerminalDialogs.Proofs.Files.Places
import TerminalDialogs.Proofs.Widget.Protocol

/-!
# What is picked

A path can be picked from a list of files, under a cursor, or it can be typed.  The picker
judges an entry by what its directory shows of it, long before anybody follows its path; the
prompt judges a path by following it.  Both come to the same (`Permitted`), with one difference:
the prompt does not ask for the ending of a file (`prompt_ending_unasked`).
-/

namespace TerminalDialogs

open Files (Tree)

/-! ## What may be picked -/

/-- A path whose name has one of some endings.  Dots in front of an ending and the case of its
letters do not count. -/
def Path.EndsIn (endings : List Text) (path : Text) : Prop :=
  ∃ ending ∈ (Path.name? path).bind Path.extension?, ∃ allowed ∈ endings,
    Text.lower (allowed.dropWhile (· == '.')) = Text.lower ending

instance (endings : List Text) (path : Text) : Decidable (Path.EndsIn endings path) :=
  inferInstanceAs (Decidable (∃ ending ∈ (Path.name? path).bind Path.extension?,
    ∃ allowed ∈ endings, Text.lower (allowed.dropWhile (· == '.')) = Text.lower ending))

/-- A path that may be picked: directories if they are allowed, and everything else if files are
or nothing is, and if it has one of the endings asked for. -/
inductive Permitted (tree : Tree) (o : Options.File) (path : Text) : Prop where
  | directory (hnamed : tree.Named path .directory) (hallowed : o.dirAllowed = true)
  | other {entry : Files.Entry} (hnamed : tree.Named path entry) (hother : entry ≠ .directory)
      (hallowed : o.fileAllowed = true ∨ o.dirAllowed = false)
      (hending : o.extensions ≠ [] → Path.EndsIn o.extensions path)

namespace Widget
namespace File

open Files (Listed)

theorem exists_of_extensionAllowed {o : Options.File} {name : Text}
    (h : extensionAllowed o name = true) (hne : o.extensions ≠ []) :
    ∃ ending, Path.extension? name = some ending ∧
      ∃ allowed ∈ o.extensions, Text.lower (allowed.dropWhile (· == '.')) = Text.lower ending := by
  rw [extensionAllowed, if_neg (by rwa [List.isEmpty_iff])] at h
  split at h
  · cases h
  · next ending hending =>
    obtain ⟨allowed, hmem, heq⟩ := List.any_eq_true.mp h
    exact ⟨ending, hending, allowed, hmem, beq_iff_eq.mp heq⟩

variable {tree : Tree} {o : Options.File}

/-- What the picker takes may be picked. -/
theorem permitted_of_shows (htree : tree.WellNamed) {directory : Text} {e : Listed}
    (h : tree.Shows directory e)
    (hallowed : if e.isDirectory = true then o.dirAllowed = true
      else fileAllowed (allowSomething o) e.name = true) :
    Permitted tree o (Path.child directory e.name) := by
  obtain ⟨entry, hnamed, hdirectory⟩ := h.named htree
  split at hallowed
  · next hshown =>
    obtain rfl := hdirectory.mpr hshown
    exact .directory hnamed hallowed
  · next hshown =>
    obtain ⟨hfile, hending⟩ := Bool.and_eq_true_iff.mp hallowed
    refine .other hnamed (fun hentry => hshown (hdirectory.mp hentry)) ?_ fun hne => ?_
    · simpa [allowSomething] using hfile
    · obtain ⟨ending, hextension, hmem⟩ := exists_of_extensionAllowed hending hne
      refine ⟨ending, ?_, hmem⟩
      rw [Path.name?_child (h.isName htree)]
      exact hextension

/-! ## The picker -/

/-- A picker that shows what the tree holds and, if it was submitted, has picked what may be
picked. -/
structure Honest (tree : Tree) (o : Options.File) (w : File) : Prop where
  options_eq : w.options = allowSomething o
  shows : ∀ e ∈ w.entries, tree.Shows w.directory e
  picked : w.phase = .submitted → ∃ path, w.picked = some path ∧ Permitted tree o path

namespace Honest

variable {w : File}

theorem openDirectory (h : w.Honest tree o) (directory : Text) :
    (File.openDirectory tree w directory).Honest tree o := by
  rw [File.openDirectory]
  split
  · next entries hlist =>
    exact ⟨h.options_eq, fun e he => Tree.shows_of_mem_list hlist he, h.picked⟩
  · exact ⟨h.options_eq, fun e he => absurd he List.not_mem_nil, h.picked⟩

theorem move (h : w.Honest tree o) (m : ListCursor.Motion) : (w.move m).Honest tree o :=
  ⟨h.options_eq, h.shows, h.picked⟩

theorem setSize (h : w.Honest tree o) (width height : Nat) :
    (w.setSize width height).Honest tree o :=
  move (w := { w with width, height }) ⟨h.options_eq, h.shows, h.picked⟩ (.forward 0)

/-- What a step picks is shown, so it may be picked. -/
theorem step (h : w.Honest tree o) (htree : tree.WellNamed) {w' : File}
    (hstep : Step tree w w') : w'.Honest tree o := by
  cases hstep with
  | same => exact h
  | cancelled =>
    refine ⟨h.options_eq, h.shows, fun hphase => ?_⟩
    cases hphase
  | moved m => exact h.move m
  | entered he hdirectory => exact h.openDirectory _
  | left hparent => exact h.openDirectory _
  | leftTo hparent m => exact (h.openDirectory _).move m
  | @picked e he hallowed =>
    rw [h.options_eq] at hallowed
    exact ⟨h.options_eq, h.shows, fun _ =>
      ⟨_, rfl, permitted_of_shows htree (h.shows e he) hallowed⟩⟩

theorem handleKey (h : w.Honest tree o) (htree : tree.WellNamed) (k : Key) :
    (w.handleKey tree k).Honest tree o :=
  h.step htree (step_handleKey tree w k)

end Honest

theorem honest_make (tree : Tree) (o : Options.File) (p : Modal.Palette) :
    (make tree o p).Honest tree o := by
  have hblank : File.Honest tree o { options := allowSomething o, palette := p } := by
    refine ⟨rfl, fun e he => absurd he List.not_mem_nil, fun hphase => ?_⟩
    cases hphase
  exact hblank.openDirectory _

end File

/-- A call that finds the files as they are given. -/
def Call.Finds (tree : Tree) : Call → Prop
  | .message found _ => found = tree
  | _ => True

/-- What keys and sizes keep is kept by a picker in a tree that stays as it is. -/
theorem File.after_invariant {tree : Tree} {P : File → Prop}
    (hkey : ∀ w k, P w → P (w.handleKey tree k))
    (hsize : ∀ w width height, P w → P (w.setSize width height)) {w : File} (h : P w)
    {calls : List Call} (hcalls : ∀ c ∈ calls, c.Finds tree) :
    ∃ w', (Widget.file w).after calls = .file w' ∧ P w' := by
  refine Widget.after_invariant_of (P := fun shown => ∃ w', shown = .file w' ∧ P w') ?_
    ⟨w, rfl, h⟩ hcalls
  rintro shown c hc ⟨w', rfl, hw'⟩
  rcases c with _ | ⟨found, m⟩ | ⟨width, height⟩
  · exact ⟨w', rfl, hw'⟩
  · obtain rfl : found = tree := hc
    rw [Widget.call]
    fun_cases Widget.update found m (.file w')
    · exact ⟨w', rfl, hw'⟩
    · exact ⟨_, rfl, hkey w' _ hw'⟩
    all_goals exact ⟨w', rfl, hw'⟩
  · exact ⟨_, rfl, hsize w' width height hw'⟩

/-- A file picker that shows what the tree holds and has picked what may be picked. -/
def Honest (tree : Tree) (o : Options.File) (w : Widget) : Prop :=
  ∃ picker : File, w = .file picker ∧ picker.Honest tree o

theorem Honest.after {tree : Tree} (htree : tree.WellNamed) {o : Options.File} {w : Widget}
    (h : w.Honest tree o) {calls : List Call} (hcalls : ∀ c ∈ calls, c.Finds tree) :
    (w.after calls).Honest tree o := by
  obtain ⟨picker, rfl, hpicker⟩ := h
  exact File.after_invariant (fun _ k hw => hw.handleKey htree k)
    (fun _ width height hw => hw.setSize width height) hpicker hcalls

theorem Phase.eq_submitted {phase : Phase} (hdone : phase.isDone = true)
    (h : ¬ phase.isCancelled = true) : phase = .submitted := by
  cases phase with
  | «open» => cases hdone
  | submitted => rfl
  | cancelled => exact absurd rfl h

/-- What an honest picker yields when it is done may be picked. -/
theorem Honest.permitted {tree : Tree} {o : Options.File} {w : Widget} (h : w.Honest tree o)
    (hdone : w.isDone = true) {value : Value} (hvalue : w.result = .ok value) :
    ∃ path, value = .text path ∧ Permitted tree o path := by
  obtain ⟨picker, rfl, hpicker⟩ := h
  rw [result] at hvalue
  split at hvalue
  · cases hvalue
  · next hcancelled =>
    obtain ⟨path, hpath, hpermitted⟩ := hpicker.picked (Phase.eq_submitted hdone hcancelled)
    refine ⟨path, (Except.ok.inj hvalue).symm.trans ?_, hpermitted⟩
    show Value.text (picker.picked.getD []) = .text path
    rw [hpath, Option.getD_some]

end Widget

/-! ## The prompt -/

namespace Prompt

variable {tree : Tree} {o : Options.File}

/-- What the prompt takes may be picked, whatever endings are asked for. -/
theorem permitted_of_isSelectable {path : Text} (h : isSelectable tree o path = true) :
    Permitted tree { o with extensions := [] } path := by
  rw [isSelectable] at h
  split at h
  · next size hfound =>
    refine .other (.found hfound) Files.Entry.noConfusion ?_ fun hne => absurd rfl hne
    simpa using h
  · next hfound => exact .directory (.found hfound) h
  · cases h

/-- However often the prompt has to ask, what it yields in the end may be picked. -/
theorem permitted_of_converse {lines : List (List UInt8)} {value : Widget.Value}
    (h : (converse tree (.file o) lines).result = .ok value) :
    ∃ path, value = .text path ∧ Permitted tree { o with extensions := [] } path := by
  induction lines with
  | nil => cases h
  | cons line lines ih =>
    rw [converse] at h
    split at h
    · cases h
    · next text _ =>
      rw [answer, answerFile] at h
      by_cases hpath : isSelectable tree o (Path.child o.path (Text.trim text)) = true
      · rw [if_pos hpath] at h
        exact ⟨_, (Except.ok.inj h).symm, permitted_of_isSelectable hpath⟩
      · rw [if_neg hpath] at h
        exact ih h

end Prompt

/-- **Only what is permitted is picked**, in whatever way: by the picker after any keys, by the
prompt after any answers.  Only the prompt does not ask for endings. -/
theorem picks_permitted {tree : Tree} (htree : tree.WellNamed) (o : Options.File) :
    (∀ p calls value, (∀ c ∈ calls, Widget.Call.Finds tree c) →
      ((Widget.file (.make tree o p)).after calls).isDone = true →
      ((Widget.file (.make tree o p)).after calls).result = .ok value →
      ∃ path, value = .text path ∧ Permitted tree o path) ∧
    ∀ lines value, (Prompt.converse tree (.file o) lines).result = .ok value →
      ∃ path, value = .text path ∧ Permitted tree { o with extensions := [] } path := by
  refine ⟨fun p calls value hcalls hdone hvalue => ?_, fun lines value hvalue => ?_⟩
  · have hmade : (Widget.file (.make tree o p)).Honest tree o :=
      ⟨_, rfl, Widget.File.honest_make tree o p⟩
    exact (hmade.after htree hcalls).permitted hdone hvalue
  · exact Prompt.permitted_of_converse hvalue

/-- Enter enters a directory, backspace leaves it, and the link to nowhere below it, of which only
the ending is judged, is picked. -/
theorem picks_permitted_link :
    let tree : Tree :=
      ⟨[(["doc".toList, "x".toList], .file 1), (["a.RS".toList], .link "no".toList)], []⟩
    let o : Options.File := { extensions := [".rs".toList] }
    let press (code : KeyCode) : Widget.Call := .message tree (.key { code })
    let calls := [press .enter, press .backspace, press .down, press .enter]
    tree.WellNamed ∧
      ((Widget.file (.make tree o .standalone)).after calls).result = .ok (.text "/a.RS".toList) ∧
      Permitted tree o "/a.RS".toList := by
  intro tree o press calls
  have htree : tree.WellNamed := by decide
  have hfinds : ∀ c ∈ calls, Widget.Call.Finds tree c := by
    simp [calls, press, Widget.Call.Finds]
  have hdone : ((Widget.file (.make tree o .standalone)).after calls).isDone = true := by
    cbv
  have hresult : ((Widget.file (.make tree o .standalone)).after calls).result =
      .ok (.text "/a.RS".toList) := by
    cbv
  obtain ⟨path, hpath, hpermitted⟩ :=
    (picks_permitted htree o).1 .standalone calls _ hfinds hdone hresult
  obtain rfl := Widget.Value.text.inj hpath
  exact ⟨htree, hresult, hpermitted⟩

/-- The prompt takes a text where only sources may be picked. -/
theorem prompt_ending_unasked :
    let tree : Tree := ⟨[(["a.txt".toList], .file 1)], []⟩
    let o : Options.File := { extensions := ["rs".toList] }
    let typed : List UInt8 := [97, 46, 116, 120, 116, 10]
    tree.WellNamed ∧ Prompt.lineText? typed = some "a.txt".toList ∧
      (Prompt.converse tree (.file o) [typed]).result = .ok (.text "a.txt".toList) ∧
      ¬ Permitted tree o "a.txt".toList := by
  intro tree o typed
  have hfound : tree.lookUp "a.txt".toList = .ok (.file 1) := by cbv
  have hline : Prompt.lineText? typed = some "a.txt".toList := by decide +kernel
  have hpath : Path.child o.path (Text.trim "a.txt".toList) = "a.txt".toList := by decide
  have hselectable : Prompt.isSelectable tree o "a.txt".toList = true := by
    rw [Prompt.isSelectable, hfound]
    rfl
  refine ⟨by decide, hline, ?_, fun hpermitted => ?_⟩
  · simp only [Prompt.converse, hline, Prompt.answer, Prompt.answerFile, hpath, hselectable,
      if_true]
  · cases hpermitted with
    | directory hnamed => cases hnamed.eq_of_lookUp hfound
    | other _ _ _ hending => exact absurd (hending (by decide)) (by decide +kernel)

end TerminalDialogs
