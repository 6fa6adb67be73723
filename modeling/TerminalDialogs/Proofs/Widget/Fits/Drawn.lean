import TerminalDialogs.Proofs.Widget.Presentable

/-!
# Widgets fit into their room

An open widget that is presentable shows lines that are as wide as it is, at most as
many as it is high, or six (`Widget.fits`).

Most widgets draw a list of lines, and it is enough that every line is loose and to
count them (`fits_renderLines`).  A list takes the room that the lines around it leave,
and one row if they leave none, so what can exceed the height is one row and the lines
around it.  Six is the number of these for a table with title and border: the title,
the upper border, the head, one row, the lower border and the hint.
-/

namespace TerminalDialogs
namespace Widget

open Modal Screen Styled

/-- A text of lines of the given width, at most as many as the height or six. -/
structure Fits (width height : Nat) (view : Text) : Prop where
  strip : ∀ line ∈ Text.rows view, Strip width line
  length_le : (Text.rows view).length ≤ max height 6

theorem fits_of_lines {width height count : Nat} {view : Text} (h : Lines width count view)
    (hcount : count ≤ max height 6) : Fits width height view :=
  ⟨h.strip, h.length_eq ▸ hcount⟩

/-- Lines that are drawn one below the other fit if they are not too many. -/
theorem fits_renderLines {lines : List Line} (hlines : ∀ line ∈ lines, line.Loose)
    {height : Nat} (hcount : 0 < lines.length ∧ lines.length ≤ max height 6) (width : Nat)
    (p : Palette) : Fits (max width 1) height (renderLines lines width p) := by
  have hne : drawLines (max width 1) p.base lines ≠ [] :=
    List.ne_nil_of_length_pos (by rw [length_drawLines]; exact hcount.1)
  have hdrawn := lines_paintRows hne (drawn_drawLines hlines)
  rw [length_drawLines] at hdrawn
  exact fits_of_lines hdrawn hcount.2

/-- A line that is drawn alone. -/
theorem strip_renderLines {line : Line} (h : line.Loose) (width : Nat) (p : Palette) :
    Strip (max width 1) (renderLines [line] width p) :=
  ((fills_drawLine h).drawn (drawn_replicate (Cell.plain_blank _) _)).strip_paintRow

/-! ## What widgets draw alike -/

theorem loose_headerLines {title description : Text} (htitle : Text.Loose title)
    (hdescription : Text.Loose description) (p : Palette) :
    ∀ line ∈ headerLines title description p, line.Loose := by
  intro line hline
  rw [headerLines, List.mem_append] at hline
  rcases hline with hline | hline
  · split at hline
    · exact absurd hline List.not_mem_nil
    · rw [List.mem_singleton.mp hline]
      simpa using htitle
  · split at hline
    · exact absurd hline List.not_mem_nil
    · rw [List.mem_singleton.mp hline]
      simpa using hdescription

theorem length_headerLines (title description : Text) (p : Palette) :
    (headerLines title description p).length ≤ 2 := by
  rw [headerLines, List.length_append]
  split <;> split <;> simp

theorem loose_hintLine {hint : Text} (h : Text.Loose hint) (p : Palette) :
    (hintLine hint p).Loose := by
  simpa [hintLine] using h

/-- A list has the room that is left, and one row if none is left. -/
theorem listRows_le (height taken limit : Nat) :
    listRows height taken limit ≤ max (height - taken) 1 := by
  rw [listRows]
  split
  · exact Nat.le_refl _
  · exact Nat.min_le_left _ _

/-- A given text or the one that stands for it. -/
theorem loose_ite_isEmpty {given default : Text} (hgiven : Text.Loose given)
    (hdefault : Text.Loose default) : Text.Loose (if given.isEmpty then default else given) := by
  split
  · exact hdefault
  · exact hgiven

/-! ## Edited lines -/

theorem loose_window {before after : Text} (hbefore : Text.Loose before)
    (hafter : Text.Loose after) (width : Nat) (style : Style) :
    Line.Loose ((LineBuffer.Window.of before after width).spans style) := by
  have hunder : Text.Solitary (after.headD ' ') := by
    rcases after with _ | ⟨c, after⟩
    · exact Text.solitary_of_lt (by decide)
    · exact hafter c List.mem_cons_self
  have htail : Text.Loose after.tail := hafter.of_subset (List.tail_sublist after).subset
  simp only [LineBuffer.Window.spans, LineBuffer.Window.of, Line.loose_cons, Line.loose_nil,
    Text.loose_cons, and_true]
  exact ⟨hbefore.drop _, ⟨hunder, Text.loose_nil⟩, htail.take _⟩

theorem loose_masked {s : Text} (h : Text.Loose s) (mask : Bool) :
    Text.Loose (s.map (LineBuffer.shownChar mask)) := by
  intro c hc
  obtain ⟨d, hd, rfl⟩ := List.mem_map.mp hc
  cases mask with
  | false => exact h d hd
  | true => exact Text.loose_of_plain (s := ['•']) (by decide) '•' (List.mem_singleton_self '•')

theorem loose_bufferWindow {b : LineBuffer} (h : Text.Loose b.value) (width : Nat) (mask : Bool)
    (style : Style) : Line.Loose ((b.window width mask).spans style) := by
  rw [LineBuffer.value, Text.loose_append] at h
  exact loose_window (loose_masked h.1 mask) (loose_masked h.2 mask) _ style

/-! ## The one-line field -/

namespace Input

theorem loose_fieldLine {w : Input} (hoptions : ∀ s ∈ w.options.texts, Text.Loose s)
    (hbuffer : Text.Loose w.buffer.value) : w.fieldLine.Loose := by
  simp only [Options.Input.texts, List.forall_mem_cons] at hoptions
  obtain ⟨-, -, hplaceholder, -, hprompt, -⟩ := hoptions
  rw [fieldLine, Line.loose_cons]
  refine ⟨loose_ite_isEmpty hprompt (by decide), ?_⟩
  split
  · simp only [placeholderSpans, Line.loose_cons, Line.loose_nil, and_true]
    exact ⟨hplaceholder.take 1, (hplaceholder.drop 1).take _⟩
  · exact loose_bufferWindow hbuffer _ _ _

theorem fits {w : Input} (hoptions : ∀ s ∈ w.options.texts, Text.Loose s)
    (hbuffer : Text.Loose w.buffer.value) : Fits (max w.width 1) w.height w.view := by
  have hline := loose_fieldLine hoptions hbuffer
  simp only [Options.Input.texts, List.forall_mem_cons] at hoptions
  obtain ⟨htitle, hdescription, -⟩ := hoptions
  have hheader := loose_headerLines htitle hdescription w.palette
  have hlength := length_headerLines w.options.title w.options.description w.palette
  rw [view]
  refine fits_renderLines (fun line hmem => ?_) ?_ _ _
  · simp only [List.mem_append, List.mem_singleton] at hmem
    rcases hmem with (hmem | rfl) | hmem
    · exact hheader line hmem
    · exact hline
    · split at hmem
      · rw [List.mem_singleton.mp hmem]
        exact loose_hintLine (Text.loose_of_plain (by decide)) _
      · exact absurd hmem List.not_mem_nil
  · simp only [List.length_append, List.length_cons, List.length_nil]
    split <;> simp <;> omega

end Input

/-! ## The question -/

theorem Confirm.fits {w : Confirm} (hoptions : ∀ s ∈ w.options.texts, Text.Loose s)
    (height : Nat) : Fits (max w.width 1) height w.view := by
  simp only [Options.Confirm.texts, List.forall_mem_cons] at hoptions
  obtain ⟨htitle, hdescription, haffirmative, hnegative, -⟩ := hoptions
  have hheader := loose_headerLines htitle hdescription w.palette
  have hlength := length_headerLines w.options.title w.options.description w.palette
  have hbutton {given : Text} (h : Text.Loose given) {default : String}
      (hdefault : Text.Loose default.toList) (focused : Bool) :
      Text.Loose (button w.palette (label given default) focused).text := by
    have hblanks : Text.Loose "  ".toList := by decide
    simp only [button, Text.loose_append]
    exact ⟨⟨hblanks, loose_ite_isEmpty h hdefault⟩, hblanks⟩
  rw [view]
  refine fits_renderLines (fun line hmem => ?_) ?_ _ _
  · rcases List.mem_append.mp hmem with hmem | hmem
    · exact hheader line hmem
    · rw [List.mem_singleton.mp hmem]
      simp only [Line.loose_cons, Line.loose_nil, and_true]
      exact ⟨hbutton haffirmative (by decide) _, by decide, hbutton hnegative (by decide) _⟩
  · simp only [List.length_append, List.length_cons, List.length_nil]
    omega

/-! ## The choice from a list -/

namespace Choose

variable {w : Choose}

theorem loose_itemLine (hcursor : Text.Loose w.options.cursor) {item : Text}
    (hitem : Text.Loose item) (i : Nat) : (w.itemLine i item).Loose := by
  have hmark : Text.Loose w.mark := loose_ite_isEmpty hcursor (by decide)
  rw [itemLine]
  simp only [Line.loose_append, Line.loose_cons, Line.loose_nil, and_true]
  refine ⟨⟨?_, ?_⟩, hitem⟩
  · split
    · exact hmark
    · exact Text.loose_blanks _
  · split
    · split
      · simp only [Line.loose_cons, Line.loose_nil, and_true]
        decide
      · simp only [Line.loose_cons, Line.loose_nil, and_true]
        decide
    · exact Line.loose_nil

theorem loose_hint (w : Choose) : Text.Loose w.hint := by
  have hfront : Text.Loose "space toggle • enter submit • ".toList :=
    Text.loose_of_plain (by decide)
  have hback : Text.Loose " selected".toList := by decide
  rw [hint]
  split
  · simp only [Text.loose_append]
    refine ⟨⟨⟨hfront, Text.loose_ofNat _⟩, ?_⟩, hback⟩
    split
    · exact Text.loose_nil
    · exact Text.loose_cons.mpr ⟨by decide, Text.loose_ofNat _⟩
  · exact Text.loose_of_plain (by decide)

theorem fits (hoptions : ∀ s ∈ w.options.texts, Text.Loose s) :
    Fits (max w.width 1) w.height w.view := by
  simp only [Options.Choose.texts, List.forall_mem_append, List.forall_mem_cons] at hoptions
  obtain ⟨⟨htitle, hdescription, -, hcursor, -⟩, hitems⟩ := hoptions
  have hheader := loose_headerLines htitle hdescription w.palette
  have hlength : w.header.length ≤ 2 := length_headerLines _ _ _
  have hrows : w.rows ≤ max (w.height - (w.header.length + 1)) 1 := listRows_le _ _ _
  rw [view]
  refine fits_renderLines (fun line hmem => ?_) ?_ _ _
  · simp only [List.mem_append, List.mem_singleton] at hmem
    rcases hmem with (hmem | hmem) | rfl
    · exact hheader line hmem
    · obtain ⟨numbered, hnumbered, rfl⟩ := List.mem_map.mp hmem
      have hzip := List.mem_of_mem_drop (List.mem_of_mem_take hnumbered)
      exact loose_itemLine hcursor (hitems _ (List.fst_mem_of_mem_zipIdx hzip)) _
    · exact loose_hintLine w.loose_hint _
  · simp only [List.length_append, List.length_cons, List.length_nil, List.length_map,
      List.length_take]
    omega

end Choose

/-! ## The list that is narrowed down by typing -/

namespace Filter

variable {w : Filter}

theorem loose_itemLine (hitems : ∀ s ∈ w.options.items, Text.Loose s) (m : Fuzzy.Ranked)
    (focused : Bool) : (w.itemLine m focused).Loose := by
  have hitem : Text.Loose ((w.options.items[m.index]?).getD []) := by
    rcases hget : w.options.items[m.index]? with _ | item
    · exact Text.loose_nil
    · exact hitems item (List.mem_of_getElem? hget)
  rw [itemLine]
  simp only [Line.loose_append, Line.loose_cons, Line.loose_nil, and_true]
  refine ⟨⟨?_, ?_⟩, ?_⟩
  · split
    · exact Text.loose_of_plain (s := "│ ".toList) (by decide)
    · exact Text.loose_of_plain (s := "  ".toList) (by decide)
  · split
    · split
      · simp only [Line.loose_cons, Line.loose_nil, and_true]
        exact Text.loose_of_plain (by decide)
      · simp only [Line.loose_cons, Line.loose_nil, and_true]
        exact Text.loose_of_plain (by decide)
    · exact Line.loose_nil
  · intro span hspan
    obtain ⟨numbered, hnumbered, rfl⟩ := List.mem_map.mp hspan
    exact Text.loose_cons.mpr ⟨hitem _ (List.fst_mem_of_mem_zipIdx hnumbered), Text.loose_nil⟩

theorem loose_itemLines (hitems : ∀ s ∈ w.options.items, Text.Loose s) :
    ∀ line ∈ w.itemLines, line.Loose := by
  intro line hline
  rw [itemLines] at hline
  split at hline
  · rw [List.mem_singleton.mp hline]
    exact loose_hintLine (by decide) _
  · obtain ⟨numbered, -, rfl⟩ := List.mem_map.mp hline
    exact loose_itemLine hitems _ _

theorem length_itemLines (w : Filter) : w.itemLines.length ≤ max w.rows 1 := by
  rw [itemLines]
  split
  · exact Nat.le_max_right _ _
  · rw [List.length_map, List.length_take]
    omega

theorem loose_queryLine (hoptions : ∀ s ∈ w.options.texts, Text.Loose s)
    (hquery : Text.Loose w.query.value) : w.queryLine.Loose := by
  simp only [Options.Filter.texts, List.forall_mem_append, List.forall_mem_cons] at hoptions
  obtain ⟨⟨-, -, hplaceholder, hprompt, -⟩, -⟩ := hoptions
  have hshown := loose_ite_isEmpty hplaceholder (show Text.Loose "Filter...".toList by decide)
  rw [queryLine, Line.loose_cons]
  refine ⟨loose_ite_isEmpty hprompt (by decide), ?_⟩
  split
  · simp only [Line.loose_cons, Line.loose_nil, and_true]
    exact hshown.take _
  · exact loose_bufferWindow hquery _ _ _

theorem loose_hint (w : Filter) : Text.Loose w.hint := by
  have hfront : Text.Loose "tab toggle • enter submit • ".toList :=
    Text.loose_of_plain (by decide)
  have hselected : Text.Loose " selected".toList := by decide
  have hback : Text.Loose " • enter select".toList :=
    Text.loose_of_plain (by decide)
  have hslash : Text.Loose ['/'] := by decide
  rw [hint]
  split
  · simp only [Text.loose_append]
    exact ⟨⟨hfront, Text.loose_ofNat _⟩, hselected⟩
  · simp only [Text.loose_append]
    exact ⟨⟨⟨Text.loose_ofNat _, hslash⟩, Text.loose_ofNat _⟩, hback⟩

theorem fits (hoptions : ∀ s ∈ w.options.texts, Text.Loose s)
    (hquery : Text.Loose w.query.value) : Fits (max w.width 1) w.height w.view := by
  have hqueryLine := loose_queryLine hoptions hquery
  simp only [Options.Filter.texts, List.forall_mem_append, List.forall_mem_cons] at hoptions
  obtain ⟨⟨htitle, hdescription, -⟩, hitems⟩ := hoptions
  have hheader := loose_headerLines htitle hdescription w.palette
  have hlines := loose_itemLines hitems
  have hlength : w.header.length ≤ 2 := length_headerLines _ _ _
  have hrows : w.rows ≤ max (w.height - (w.header.length + 2)) 1 := listRows_le _ _ _
  have hitemLines := w.length_itemLines
  rw [view]
  refine fits_renderLines (fun line hmem => ?_) ?_ _ _
  · simp only [List.mem_append, List.mem_singleton] at hmem
    rcases hmem with (hmem | hmem) | rfl
    · exact hheader line hmem
    · split at hmem
      · rcases List.mem_append.mp hmem with hmem | hmem
        · exact hlines line (List.mem_reverse.mp hmem)
        · rwa [List.mem_singleton.mp hmem]
      · rcases List.mem_cons.mp hmem with rfl | hmem
        · exact hqueryLine
        · exact hlines line hmem
    · exact loose_hintLine w.loose_hint _
  · simp only [List.length_append, List.length_cons, List.length_nil]
    split <;> simp only [List.length_append, List.length_cons, List.length_nil,
      List.length_reverse] <;> omega

end Filter

/-! ## The file picker -/

namespace File

theorem loose_humanSize (bytes : Nat) : Text.Loose (humanSize bytes) := by
  have hunit (i : Nat) : Text.Solitary ((['K', 'M', 'G', 'T'][i]?).getD 'T') := by
    rcases hget : ['K', 'M', 'G', 'T'][i]? with _ | c
    · decide
    · have hall : Text.Loose ['K', 'M', 'G', 'T'] := by decide
      exact hall c (List.mem_of_getElem? hget)
  have hbytes : Text.Loose ['B'] := by decide
  have hpoint : Text.Loose ['.'] := by decide
  rw [humanSize]
  split
  · exact Text.loose_append.mpr ⟨Text.loose_ofNat _, hbytes⟩
  · simp only [Text.loose_append]
    exact ⟨⟨⟨Text.loose_ofNat _, hpoint⟩, Text.loose_ofNat _⟩,
      Text.loose_cons.mpr ⟨hunit _, Text.loose_nil⟩⟩

theorem loose_entryLine (w : File) {e : Files.Listed} (he : Text.Loose e.name) (focused : Bool) :
    (w.entryLine e focused).Loose := by
  have hslash : Text.Loose ['/'] := by decide
  have hblank : Text.Loose [' '] := by decide
  rw [entryLine]
  simp only [Line.loose_append, Line.loose_cons, Line.loose_nil, and_true]
  refine ⟨⟨?_, ?_⟩, ?_⟩
  · split <;> decide
  · split
    · simp only [Line.loose_cons, Line.loose_nil, and_true, Text.loose_append, Text.loose_padLeft]
      refine ⟨?_, hblank⟩
      split
      · decide
      · exact loose_humanSize _
    · exact Line.loose_nil
  · split
    · exact Text.loose_append.mpr ⟨he, hslash⟩
    · exact he

theorem loose_problem (problem : Files.Problem) : Text.Loose problem.message := by
  cases problem <;> exact Text.loose_of_plain (by decide)

theorem loose_message {e : Files.ListError} (h : Text.Loose e.path) : Text.Loose e.message := by
  have hfront : Text.Loose "IO error for operation on ".toList := Text.loose_of_plain (by decide)
  have hcolon : Text.Loose ": ".toList := by decide
  have hplace := Text.loose_append.mpr ⟨Text.loose_append.mpr ⟨hfront, h⟩, hcolon⟩
  exact Text.loose_append.mpr ⟨hplace, loose_problem _⟩

theorem loose_notice {w : File} (h : w.Presentable) : ∀ line ∈ w.notice, line.Loose := by
  intro line hline
  rw [notice] at hline
  split at hline
  · next e he =>
    rw [List.mem_singleton.mp hline, Line.loose_cons]
    exact ⟨loose_message (h.problem e he).1, Line.loose_nil⟩
  · split at hline
    · rw [List.mem_singleton.mp hline]
      exact loose_hintLine (by decide) _
    · exact absurd hline List.not_mem_nil

/-- The notice stands for the entries. -/
theorem length_notice {w : File} (h : w.Presentable) :
    w.notice.length + min w.rows w.entries.length ≤ max w.rows 1 := by
  rw [notice]
  split
  · next e he =>
    rw [(h.problem e he).2, List.length_nil, Nat.min_zero]
    exact Nat.le_max_right _ _
  · split
    · next hempty =>
      rw [List.isEmpty_iff.mp hempty, List.length_nil, Nat.min_zero]
      exact Nat.le_max_right _ _
    · simp only [List.length_nil]
      omega

theorem fits {w : File} (h : w.Presentable) : Fits (max w.width 1) w.height w.view := by
  have hoptions := h.options
  simp only [Options.File.texts, List.forall_mem_append, List.forall_mem_cons] at hoptions
  obtain ⟨⟨htitle, hdescription, -⟩, -⟩ := hoptions
  have hheader := loose_headerLines htitle hdescription w.palette
  have hlength : w.header.length ≤ 3 := by
    have hlines := length_headerLines w.options.title w.options.description w.palette
    simp only [header, List.length_append, List.length_cons, List.length_nil]
    omega
  have hrows : w.rows ≤ max (w.height - (w.header.length + 1)) 1 := listRows_le _ _ _
  have hnotice := length_notice h
  rw [view]
  refine fits_renderLines (fun line hmem => ?_) ?_ _ _
  · simp only [header, List.mem_append, List.mem_singleton] at hmem
    rcases hmem with (((hmem | rfl) | hmem) | hmem) | rfl
    · exact hheader line hmem
    · simpa using h.directory
    · exact loose_notice h line hmem
    · obtain ⟨numbered, hnumbered, rfl⟩ := List.mem_map.mp hmem
      have hzip := List.mem_of_mem_drop (List.mem_of_mem_take hnumbered)
      exact w.loose_entryLine (h.entries _ (List.fst_mem_of_mem_zipIdx hzip)) _
    · exact loose_hintLine (Text.loose_of_plain (by decide)) _
  · simp only [List.length_append, List.length_cons, List.length_nil, List.length_map,
      List.length_take, List.length_drop, List.length_zipIdx]
    omega

end File

/-! ## The editor -/

namespace Write

variable {w : Write}

theorem loose_numberSpans (w : Write) (index : Nat) : Line.Loose (w.numberSpans index) := by
  have hblank : Text.Loose [' '] := by decide
  rw [numberSpans]
  split
  · exact Line.loose_nil
  · simp only [Line.loose_cons, Line.loose_nil, and_true]
    split
    · simp only [Text.loose_append, Text.loose_padLeft]
      exact ⟨Text.loose_ofNat _, hblank⟩
    · exact Text.loose_blanks _

theorem loose_rowLine (h : Text.Loose w.text.chars) (index : Nat) : (w.rowLine index).Loose := by
  rw [rowLine, Line.loose_append]
  refine ⟨w.loose_numberSpans index, ?_⟩
  split
  · exact Line.loose_nil
  · next line hline =>
    split
    · refine loose_window (h.of_subset fun c hc => ?_) (h.of_subset fun c hc => ?_) _ _
      · exact TextArea.mem_chars.mpr (Or.inr (Or.inl hc))
      · exact TextArea.mem_chars.mpr (Or.inr (Or.inr (Or.inl hc)))
    · simp only [Line.loose_cons, Line.loose_nil, and_true]
      refine Text.Loose.take (h.of_subset fun c hc => ?_) _
      have hmem := List.mem_of_getElem? hline
      rw [TextArea.lines, List.mem_append, List.mem_cons] at hmem
      rw [TextArea.mem_chars]
      rcases hmem with hmem | rfl | hmem
      · exact Or.inl ⟨line, hmem, hc⟩
      · exact Or.inr (List.mem_append.mp hc |>.imp_right Or.inl)
      · exact Or.inr (Or.inr (Or.inr ⟨line, hmem, hc⟩))

theorem loose_textLines (hplaceholder : Text.Loose w.options.placeholder)
    (h : Text.Loose w.text.chars) : ∀ line ∈ w.textLines, line.Loose := by
  intro line hline
  rw [textLines] at hline
  split at hline
  · rcases List.mem_cons.mp hline with rfl | hline
    · simp only [Line.loose_append, Line.loose_cons, Line.loose_nil, and_true]
      exact ⟨w.loose_numberSpans 0, hplaceholder.take _⟩
    · obtain ⟨i, -, rfl⟩ := List.mem_map.mp hline
      exact loose_rowLine h _
  · obtain ⟨i, -, rfl⟩ := List.mem_map.mp hline
    exact loose_rowLine h _

theorem length_textLines (w : Write) : w.textLines.length ≤ max w.rows 1 := by
  rw [textLines]
  split
  · rw [List.length_cons, List.length_map, List.length_range]
    omega
  · rw [List.length_map, List.length_range]
    exact Nat.le_max_left _ _

theorem fits (hoptions : ∀ s ∈ w.options.texts, Text.Loose s) (htext : Text.Loose w.text.chars) :
    Fits (max w.width 1) w.height w.view := by
  simp only [Options.Write.texts, List.forall_mem_cons] at hoptions
  obtain ⟨htitle, hdescription, hplaceholder, -⟩ := hoptions
  have hheader := loose_headerLines htitle hdescription w.palette
  have hlines := loose_textLines hplaceholder htext
  have hlength : w.header.length ≤ 2 := length_headerLines _ _ _
  have hrows : w.rows ≤ max (w.height - (w.header.length + 1)) 1 := Nat.min_le_right _ _
  have htextLines := w.length_textLines
  rw [view]
  refine fits_renderLines (fun line hmem => ?_) ?_ _ _
  · simp only [List.mem_append, List.mem_singleton] at hmem
    rcases hmem with (hmem | hmem) | rfl
    · exact hheader line hmem
    · exact hlines line hmem
    · exact loose_hintLine (Text.loose_of_plain (by decide)) _
  · simp only [List.length_append, List.length_cons, List.length_nil]
    omega

end Write

/-! ## The spinner -/

namespace Spin

theorem loose_frames {name picture : Text} (h : picture ∈ frames name) : Text.Loose picture := by
  rw [frames] at h
  refine Text.loose_of_plain ?_
  split at h
  · next n hfind =>
    have hnamed := List.mem_of_find?_eq_some hfind
    simp only [List.mem_cons, List.not_mem_nil, or_false] at hnamed
    clear hfind
    rcases hnamed with rfl | rfl | rfl | rfl | rfl | rfl | rfl | rfl | rfl | rfl
    all_goals exact List.all_eq_true.mp (by decide) picture h
  · exact List.all_eq_true.mp (by decide) picture h

theorem fits {w : Spin} (hoptions : ∀ s ∈ w.options.texts, Text.Loose s) (height : Nat) :
    Fits (max w.width 1) height w.view := by
  simp only [Options.Spin.texts, List.forall_mem_append, List.forall_mem_cons] at hoptions
  obtain ⟨⟨htitle, -⟩, -⟩ := hoptions
  have hpicture : Text.Loose ((frames w.options.spinner)[w.frame]?.getD []) := by
    rcases hget : (frames w.options.spinner)[w.frame]? with _ | picture
    · exact Text.loose_nil
    · exact loose_frames (List.mem_of_getElem? hget)
  rw [view]
  refine fits_renderLines (fun line hmem => ?_) ?_ _ _
  · rw [List.mem_singleton.mp hmem]
    simp only [Line.loose_cons, Line.loose_nil, and_true]
    exact ⟨hpicture, by decide, htitle⟩
  · simp only [List.length_cons, List.length_nil]
    omega

end Spin

end Widget
end TerminalDialogs
