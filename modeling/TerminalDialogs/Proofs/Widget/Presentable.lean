import TerminalDialogs.Proofs.Files.Names
import TerminalDialogs.Proofs.Options.Texts
import TerminalDialogs.Proofs.Table.Cells
import TerminalDialogs.Proofs.Table.Load
import TerminalDialogs.Proofs.Widget.Protocol
import TerminalDialogs.Proofs.Widget.Typing

/-!
# What widgets have to show

What a widget shows is put together from the strings of its options, from what was
typed into it and from the names of files.  A widget is *presentable* if all of these
are loose, the cells of a table even solid, and the text of a pager without escape
sequences.
A widget made from such strings is presentable (`presentable_make`), and it stays so as
long as it is told nothing but solitary characters and loose names
(`Presentable.after`).

Messages leave the size of a widget alone (`Sized.after`), so the size given last is the
one that counts.
-/

namespace TerminalDialogs
namespace Widget

open Files (Tree)

/-! ## What belongs to each kind -/

/-- A file picker whose texts are loose.  If its directory cannot be listed, it has no
entries. -/
structure File.Presentable (w : File) : Prop where
  options : ∀ s ∈ w.options.texts, Text.Loose s
  directory : Text.Loose w.directory
  entries : ∀ e ∈ w.entries, Text.Loose e.name
  problem : ∀ e, w.problem = some e → Text.Loose e.path ∧ w.entries = []

/-- A pager without escape sequences, laid out for its size. -/
structure Pager.Presentable (w : Pager) : Prop where
  options : ∀ s ∈ w.options.texts, Text.Loose s ∧ Styled.esc ∉ s
  lines_eq : w.viewport.lines = (Text.rows (Text.unrows w.contentRows)).map Viewport.overwritten
  height_eq : w.viewport.height = max (w.height - w.chrome) 1

/-- A widget whose texts can be drawn as they are. -/
def Presentable : Widget → Prop
  | .input w => (∀ s ∈ w.options.texts, Text.Loose s) ∧ Text.Loose w.buffer.value
  | .confirm w => ∀ s ∈ w.options.texts, Text.Loose s
  | .choose w => ∀ s ∈ w.options.texts, Text.Loose s
  | .filter w => (∀ s ∈ w.options.texts, Text.Loose s) ∧ Text.Loose w.query.value
  | .file w => w.Presentable
  | .write w => (∀ s ∈ w.options.texts, Text.Loose s) ∧ Text.Loose w.text.chars
  | .spin w => ∀ s ∈ w.options.texts, Text.Loose s
  | .pager w => w.Presentable
  | .table w => (∀ s ∈ w.options.texts, Text.Loose s) ∧ ∀ s ∈ w.options.cells, Text.Solid s

/-- A widget of the given size. -/
def Sized (width height : Nat) : Widget → Prop
  | .input w => w.width = width ∧ w.height = height
  | .confirm w => w.width = width
  | .choose w => w.width = width ∧ w.height = height
  | .filter w => w.width = width ∧ w.height = height
  | .file w => w.width = width ∧ w.height = height
  | .write w => w.width = width ∧ w.height = height
  | .spin w => w.width = width
  | .pager w => w.width = width ∧ w.height = height
  | .table w => w.width = width ∧ w.height = height

/-- A call that brings solitary characters and loose names only. -/
def Call.Loose : Call → Prop
  | .init => True
  | .message tree m =>
      (∀ name, tree.Names name → Text.Loose name) ∧
        ∀ k c, m = .key k → k.code = .char c → Text.Solitary c
  | .resize _ _ => True

/-- A call that leaves the size alone. -/
def Call.isResize : Call → Bool
  | .resize _ _ => true
  | _ => false

/-! ## Keys leave options and size alone -/

theorem Input.fixed_handleKey (w : Input) (k : Key) : (w.handleKey k).options = w.options ∧
    (w.handleKey k).width = w.width ∧ (w.handleKey k).height = w.height ∧
      ((w.handleKey k).buffer = w.buffer ∨ (w.handleKey k).buffer = w.buffer.handleKey k) := by
  fun_cases Input.handleKey w k
  · exact ⟨rfl, rfl, rfl, Or.inl rfl⟩
  · exact ⟨rfl, rfl, rfl, Or.inl rfl⟩
  · exact ⟨rfl, rfl, rfl, Or.inr rfl⟩

theorem Confirm.fixed_handleKey (w : Confirm) (k : Key) :
    (w.handleKey k).options = w.options ∧ (w.handleKey k).width = w.width := by
  fun_cases Confirm.handleKey w k
  all_goals exact ⟨rfl, rfl⟩

theorem Choose.fixed_toggleAll (w : Choose) : w.toggleAll.options = w.options ∧
    w.toggleAll.width = w.width ∧ w.toggleAll.height = w.height := by
  fun_cases Choose.toggleAll w
  all_goals exact ⟨rfl, rfl, rfl⟩

theorem Choose.fixed_toggleCurrent (w : Choose) : w.toggleCurrent.options = w.options ∧
    w.toggleCurrent.width = w.width ∧ w.toggleCurrent.height = w.height := by
  fun_cases Choose.toggleCurrent w
  all_goals exact ⟨rfl, rfl, rfl⟩

theorem Choose.fixed_handleKey (w : Choose) (k : Key) : (w.handleKey k).options = w.options ∧
    (w.handleKey k).width = w.width ∧ (w.handleKey k).height = w.height := by
  fun_cases Choose.handleKey w k
  all_goals first
    | exact ⟨rfl, rfl, rfl⟩
    | exact w.fixed_toggleAll
    | exact w.fixed_toggleCurrent

theorem Filter.fixed_toggleCurrent (w : Filter) : w.toggleCurrent.options = w.options ∧
    w.toggleCurrent.width = w.width ∧ w.toggleCurrent.height = w.height ∧
      w.toggleCurrent.query = w.query := by
  fun_cases Filter.toggleCurrent w
  all_goals exact ⟨rfl, rfl, rfl, rfl⟩

theorem Filter.fixed_edit (w : Filter) (k : Key) : (w.edit k).options = w.options ∧
    (w.edit k).width = w.width ∧ (w.edit k).height = w.height ∧
      (w.edit k).query = w.query.handleKey k := by
  fun_cases Filter.edit w k
  all_goals exact ⟨rfl, rfl, rfl, rfl⟩

theorem Filter.fixed_handleKey (w : Filter) (k : Key) : (w.handleKey k).options = w.options ∧
    (w.handleKey k).width = w.width ∧ (w.handleKey k).height = w.height ∧
      ((w.handleKey k).query = w.query ∨ (w.handleKey k).query = w.query.handleKey k) := by
  have hedit := w.fixed_edit k
  have htoggle := w.fixed_toggleCurrent
  fun_cases Filter.handleKey w k
  all_goals first
    | exact ⟨rfl, rfl, rfl, Or.inl rfl⟩
    | exact ⟨hedit.1, hedit.2.1, hedit.2.2.1, Or.inr hedit.2.2.2⟩
    | exact ⟨htoggle.1, htoggle.2.1, htoggle.2.2.1, Or.inl htoggle.2.2.2⟩

theorem Write.fixed_reveal (w : Write) : w.reveal.options = w.options ∧
    w.reveal.width = w.width ∧ w.reveal.height = w.height := by
  fun_cases Write.reveal w
  all_goals exact ⟨rfl, rfl, rfl⟩

theorem Write.fixed_handleKey (w : Write) (k : Key) : (w.handleKey k).options = w.options ∧
    (w.handleKey k).width = w.width ∧ (w.handleKey k).height = w.height ∧
      ((w.handleKey k).text = w.text ∨ (w.handleKey k).text = w.text.handleKey k) := by
  fun_cases Write.handleKey w k
  case case3 =>
    obtain ⟨hoptions, hwidth, hheight⟩ := { w with text := w.text.handleKey k }.fixed_reveal
    exact ⟨hoptions, hwidth, hheight, Or.inr (Write.text_reveal _)⟩
  all_goals exact ⟨rfl, rfl, rfl, Or.inl rfl⟩

theorem Table.fixed_handleKey (w : Table) (k : Key) : (w.handleKey k).options = w.options ∧
    (w.handleKey k).width = w.width ∧ (w.handleKey k).height = w.height := by
  fun_cases Table.handleKey w k
  all_goals exact ⟨rfl, rfl, rfl⟩

/-! ## The pager -/

theorem Pager.presentable_layOut {w : Pager}
    (h : ∀ s ∈ w.options.texts, Text.Loose s ∧ Styled.esc ∉ s) : w.layOut.Presentable :=
  ⟨h, rfl, rfl⟩

theorem Pager.Presentable.handleKey {w : Pager} (h : w.Presentable) (k : Key) :
    (w.handleKey k).Presentable := by
  fun_cases Pager.handleKey w k
  all_goals exact ⟨h.options, h.lines_eq, h.height_eq⟩

theorem Pager.fixed_handleKey (w : Pager) (k : Key) :
    (w.handleKey k).width = w.width ∧ (w.handleKey k).height = w.height := by
  fun_cases Pager.handleKey w k
  all_goals exact ⟨rfl, rfl⟩

/-! ## The file picker -/

namespace File

variable {w : File} {tree : Tree}

/-- A directory is listed with names of the tree. -/
theorem Presentable.openDirectory (h : w.Presentable)
    (htree : ∀ name, tree.Names name → Text.Loose name) {directory : Text}
    (hdirectory : Text.Loose directory) : (openDirectory tree w directory).Presentable := by
  rw [File.openDirectory]
  split
  · next entries hlist =>
    exact ⟨h.options, hdirectory, fun e he => htree _ (Tree.names_of_mem_list hlist he),
      fun e he => nomatch he⟩
  · next e hlist =>
    refine ⟨h.options, hdirectory, fun e he => absurd he List.not_mem_nil, fun e' he' => ?_⟩
    obtain rfl := Option.some.inj he'
    rw [Tree.path_of_list hlist]
    exact ⟨hdirectory, rfl⟩

theorem Presentable.move (h : w.Presentable) (m : ListCursor.Motion) : (w.move m).Presentable :=
  ⟨h.options, h.directory, h.entries, h.problem⟩

/-- The paths that a step leads to are as presentable as the names in the tree. -/
theorem Presentable.step (h : w.Presentable) (htree : ∀ name, tree.Names name → Text.Loose name)
    {w' : File} (hstep : Step tree w w') : w'.Presentable := by
  have hslash : Text.Solitary '/' := Text.solitary_of_lt (by decide)
  have hparent {parent : Text} (hparent : Path.parent? w.directory = some parent) :
      Text.Loose parent := fun c hc => by
    rcases Path.mem_of_mem_parent? hparent hc with hc | rfl
    · exact h.directory c hc
    · exact hslash
  cases hstep with
  | same => exact h
  | cancelled => exact ⟨h.options, h.directory, h.entries, h.problem⟩
  | moved m => exact h.move m
  | @entered e he hdirectory =>
    refine h.openDirectory htree fun c hc => ?_
    rcases Path.mem_of_mem_child hc with hc | hc | rfl
    · exact h.directory c hc
    · exact h.entries e he c hc
    · exact hslash
  | left hleft => exact h.openDirectory htree (hparent hleft)
  | leftTo hleft m => exact (h.openDirectory htree (hparent hleft)).move m
  | picked he hallowed => exact ⟨h.options, h.directory, h.entries, h.problem⟩

theorem Presentable.handleKey (h : w.Presentable)
    (htree : ∀ name, tree.Names name → Text.Loose name) (k : Key) :
    (w.handleKey tree k).Presentable :=
  h.step htree (step_handleKey tree w k)

variable (tree w)

theorem fixed_openDirectory (directory : Text) :
    (File.openDirectory tree w directory).width = w.width ∧
      (File.openDirectory tree w directory).height = w.height := by
  fun_cases File.openDirectory tree w directory
  all_goals exact ⟨rfl, rfl⟩

variable {w tree} in
theorem fixed_step {w' : File} (hstep : Step tree w w') :
    w'.width = w.width ∧ w'.height = w.height := by
  cases hstep with
  | same => exact ⟨rfl, rfl⟩
  | cancelled => exact ⟨rfl, rfl⟩
  | moved m => exact ⟨rfl, rfl⟩
  | entered he hdirectory => exact fixed_openDirectory w tree _
  | left hparent => exact fixed_openDirectory w tree _
  | leftTo hparent m => exact fixed_openDirectory w tree _
  | picked he hallowed => exact ⟨rfl, rfl⟩

theorem fixed_handleKey (k : Key) :
    (w.handleKey tree k).width = w.width ∧ (w.handleKey tree k).height = w.height :=
  fixed_step (step_handleKey tree w k)

end File

/-! ## Sizes -/

theorem sized_setSize (w : Widget) (width height : Nat) :
    Sized width height (w.setSize width height) := by
  cases w
  case confirm => exact rfl
  case spin => exact rfl
  case write w =>
    obtain ⟨-, hwidth, hheight⟩ := Write.fixed_reveal { w with width, height }
    exact ⟨hwidth, hheight⟩
  all_goals exact ⟨rfl, rfl⟩

variable {width height : Nat} {w : Widget}

theorem Sized.handleKey (h : Sized width height w) (tree : Tree) (k : Key) :
    Sized width height (w.handleKey tree k) := by
  cases w
  case input w =>
    obtain ⟨-, hwidth, hheight, -⟩ := w.fixed_handleKey k
    exact ⟨hwidth.trans h.1, hheight.trans h.2⟩
  case confirm w => exact (w.fixed_handleKey k).2.trans h
  case choose w =>
    obtain ⟨-, hwidth, hheight⟩ := w.fixed_handleKey k
    exact ⟨hwidth.trans h.1, hheight.trans h.2⟩
  case filter w =>
    obtain ⟨-, hwidth, hheight, -⟩ := w.fixed_handleKey k
    exact ⟨hwidth.trans h.1, hheight.trans h.2⟩
  case file w =>
    obtain ⟨hwidth, hheight⟩ := File.fixed_handleKey w tree k
    exact ⟨hwidth.trans h.1, hheight.trans h.2⟩
  case write w =>
    obtain ⟨-, hwidth, hheight, -⟩ := w.fixed_handleKey k
    exact ⟨hwidth.trans h.1, hheight.trans h.2⟩
  case spin w =>
    show (w.handleKey k).width = width
    rw [Spin.handleKey]
    split
    · exact h
    · exact h
  case pager w =>
    obtain ⟨hwidth, hheight⟩ := w.fixed_handleKey k
    exact ⟨hwidth.trans h.1, hheight.trans h.2⟩
  case table w =>
    obtain ⟨-, hwidth, hheight⟩ := w.fixed_handleKey k
    exact ⟨hwidth.trans h.1, hheight.trans h.2⟩

theorem Sized.call (h : Sized width height w) {c : Call} (hc : c.isResize = false) :
    Sized width height (w.call c) := by
  rcases c with _ | ⟨tree, m⟩ | ⟨width', height'⟩
  · exact h
  · show Sized width height (w.update tree m).1
    fun_cases Widget.update tree m w
    · exact h
    · exact h.handleKey tree _
    · exact h
    · cases w <;> exact h
    · cases w <;> exact h
  · cases hc

theorem Sized.after (h : Sized width height w) {calls : List Call}
    (hcalls : ∀ c ∈ calls, c.isResize = false) : Sized width height (w.after calls) := by
  induction calls generalizing w with
  | nil => exact h
  | cons c calls ih =>
    rw [List.forall_mem_cons] at hcalls
    exact ih (h.call hcalls.1) hcalls.2

/-! ## Staying presentable -/

theorem Presentable.setSize (h : w.Presentable) (width height : Nat) :
    (w.setSize width height).Presentable := by
  cases w
  case pager w => exact Pager.presentable_layOut h.options
  case file w => exact ⟨h.options, h.directory, h.entries, h.problem⟩
  case write w =>
    obtain ⟨hoptions, htext⟩ := h
    refine ⟨?_, ?_⟩
    · rwa [Write.setSize, (Write.fixed_reveal _).1]
    · rwa [Write.setSize, Write.text_reveal]
  all_goals exact h

theorem Presentable.handleKey (h : w.Presentable) {tree : Tree}
    (htree : ∀ name, tree.Names name → Text.Loose name) {k : Key}
    (hk : ∀ c, k.code = .char c → Text.Solitary c) : (w.handleKey tree k).Presentable := by
  cases w
  case input w =>
    obtain ⟨hoptions, hbuffer⟩ := h
    obtain ⟨hfixed, -, -, hedited⟩ := w.fixed_handleKey k
    refine ⟨by rwa [hfixed], ?_⟩
    rcases hedited with heq | heq
    · rwa [heq]
    · rw [heq]
      exact fun c hc => (LineBuffer.mem_handleKey hc).elim (hbuffer c) (hk c)
  case confirm w =>
    show ∀ s ∈ (w.handleKey k).options.texts, Text.Loose s
    rwa [(w.fixed_handleKey k).1]
  case choose w =>
    show ∀ s ∈ (w.handleKey k).options.texts, Text.Loose s
    rwa [(w.fixed_handleKey k).1]
  case filter w =>
    obtain ⟨hoptions, hquery⟩ := h
    obtain ⟨hfixed, -, -, hedited⟩ := w.fixed_handleKey k
    refine ⟨by rwa [hfixed], ?_⟩
    rcases hedited with heq | heq
    · rwa [heq]
    · rw [heq]
      exact fun c hc => (LineBuffer.mem_handleKey hc).elim (hquery c) (hk c)
  case file w => exact File.Presentable.handleKey h htree k
  case write w =>
    obtain ⟨hoptions, htext⟩ := h
    obtain ⟨hfixed, -, -, hedited⟩ := w.fixed_handleKey k
    refine ⟨by rwa [hfixed], ?_⟩
    rcases hedited with heq | heq
    · rwa [heq]
    · rw [heq]
      exact fun c hc => (TextArea.mem_handleKey hc).elim (htext c) (hk c)
  case spin w =>
    show ∀ s ∈ (w.handleKey k).options.texts, Text.Loose s
    rw [Spin.handleKey]
    split
    · exact h
    · exact h
  case pager w => exact Pager.Presentable.handleKey h k
  case table w =>
    show (∀ s ∈ (w.handleKey k).options.texts, Text.Loose s) ∧
      ∀ s ∈ (w.handleKey k).options.cells, Text.Solid s
    rwa [(w.fixed_handleKey k).1]

theorem Presentable.call (h : w.Presentable) {c : Call} (hc : c.Loose) :
    (w.call c).Presentable := by
  rcases c with _ | ⟨tree, m⟩ | ⟨width, height⟩
  · exact h
  · obtain ⟨htree, hkey⟩ := hc
    show (w.update tree m).1.Presentable
    fun_cases Widget.update tree m w
    · exact h
    · exact h.handleKey htree fun c => hkey _ c rfl
    · exact h
    · cases w <;> exact h
    · cases w <;> exact h
  · exact h.setSize width height

/-- **A presentable widget stays so**, if it is told nothing but solitary characters and
loose names. -/
theorem Presentable.after (h : w.Presentable) {calls : List Call} (hcalls : ∀ c ∈ calls, c.Loose) :
    (w.after calls).Presentable := by
  induction calls generalizing w with
  | nil => exact h
  | cons c calls ih =>
    rw [List.forall_mem_cons] at hcalls
    exact ih (h.call hcalls.1) hcalls.2

/-! ## Widgets that are made -/

/-- A widget that could be made was made from options that could be read. -/
theorem exists_read {σ : Type} {kind : Kind} {name : String} {fields : List (Options.Field σ)}
    {defaults : σ} {j : Json} {build : σ → Widget}
    (h : (readOptions kind name fields defaults j >>= fun o => pure (build o)) = .ok w) :
    ∃ o, Options.readRecord name fields defaults j = .ok o ∧ build o = w := by
  rw [readOptions] at h
  rcases hread : Options.readRecord name fields defaults j with m | o
  · rw [hread] at h
    exact nomatch h
  · rw [hread] at h
    exact ⟨o, rfl, Except.ok.inj h⟩

theorem Choose.options_make (o : Options.Choose) (p : Modal.Palette) : (make o p).options = o := by
  rw [make]
  dsimp only
  split
  · rfl
  · rfl

theorem Filter.fixed_make (o : Options.Filter) (p : Modal.Palette) :
    (make o p).options = o ∧ (make o p).query = LineBuffer.ofText o.value 0 := by
  fun_cases Filter.make o p
  · exact ⟨rfl, rfl⟩
  · exact ⟨rfl, rfl⟩

theorem File.presentable_make {tree : Tree} (htree : ∀ name, tree.Names name → Text.Loose name)
    {o : Options.File} (ho : ∀ s ∈ o.texts, Text.Loose s) (p : Modal.Palette) :
    (make tree o p).Presentable := by
  have hblank : File.Presentable { options := allowSomething o, palette := p } :=
    ⟨ho, Text.loose_nil, fun _ h => absurd h List.not_mem_nil, fun _ h => nomatch h⟩
  refine hblank.openDirectory htree ?_
  split
  · intro c hc
    rcases List.mem_cons.mp hc with rfl | hc
    · exact Text.solitary_of_lt (by decide)
    · rcases Text.mem_of_mem_join hc with hc | ⟨name, hname, hc⟩
      · rw [List.mem_singleton.mp hc]
        exact Text.solitary_of_lt (by decide)
      · exact htree name (Or.inl hname) c hc
  · exact ho _ (by simp [allowSomething, Options.File.texts])

/-- **A widget is presentable when it is made** from loose strings without escape
sequences, if the cells of a table are solid. -/
theorem presentable_make {tree : Tree} {kind : Kind} {options : Json} {p : Modal.Palette}
    (h : make tree kind options p = .ok w) (htree : ∀ name, tree.Names name → Text.Loose name)
    (hoptions : options.All fun s => Text.Loose s ∧ Styled.esc ∉ s)
    (hcells : ∀ t, w = .table t → ∀ s ∈ t.options.cells, Text.Solid s) : w.Presentable := by
  have hloose : options.All Text.Loose := fun s hs => (hoptions s hs).1
  cases kind
  case input =>
    obtain ⟨o, hread, rfl⟩ := exists_read h
    have htexts := Options.Input.forall_texts Text.loose_nil hloose hread
    refine ⟨htexts, fun c hc => ?_⟩
    exact htexts o.value (by simp [Options.Input.texts]) c (LineBuffer.mem_ofText hc)
  case confirm =>
    obtain ⟨o, hread, rfl⟩ := exists_read h
    exact Options.Confirm.forall_texts Text.loose_nil hloose hread
  case choose =>
    obtain ⟨o, hread, rfl⟩ := exists_read h
    show ∀ s ∈ (Choose.make o p).options.texts, Text.Loose s
    rw [Choose.options_make]
    exact Options.Choose.forall_texts Text.loose_nil hloose hread
  case filter =>
    obtain ⟨o, hread, rfl⟩ := exists_read h
    have htexts := Options.Filter.forall_texts Text.loose_nil hloose hread
    obtain ⟨hfixed, hquery⟩ := Filter.fixed_make o p
    refine ⟨by rwa [hfixed], ?_⟩
    rw [hquery]
    exact fun c hc =>
      htexts o.value (by simp [Options.Filter.texts]) c (LineBuffer.mem_ofText hc)
  case file =>
    obtain ⟨o, hread, rfl⟩ := exists_read h
    exact File.presentable_make htree (Options.File.forall_texts Text.loose_nil hloose hread) p
  case write =>
    obtain ⟨o, hread, rfl⟩ := exists_read h
    have htexts := Options.Write.forall_texts Text.loose_nil hloose hread
    refine ⟨htexts, fun c hc => ?_⟩
    exact htexts o.value (by simp [Options.Write.texts]) c (TextArea.mem_ofText hc)
  case spin =>
    obtain ⟨o, hread, rfl⟩ := exists_read h
    exact Options.Spin.forall_texts Text.loose_nil hloose hread
  case pager =>
    obtain ⟨o, hread, rfl⟩ := exists_read h
    exact Pager.presentable_layOut
      (Options.Pager.forall_texts ⟨Text.loose_nil, List.not_mem_nil⟩ hoptions hread)
  case table =>
    obtain ⟨o, hread, rfl⟩ := exists_read h
    have htexts := Options.Table.forall_texts Text.loose_nil hloose hread
    refine ⟨fun s hs => ?_, hcells _ rfl⟩
    obtain ⟨t, ht, hsubset⟩ := TerminalDialogs.Table.subset_of_mem_load hs
    exact (htexts t ht).of_subset hsubset

end Widget
end TerminalDialogs
