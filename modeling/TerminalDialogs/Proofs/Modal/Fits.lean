import TerminalDialogs.Proofs.Modal.Frame
import TerminalDialogs.Proofs.Widget.Fits.Pager
import TerminalDialogs.Proofs.Widget.Fits.Table

/-!
# Dialogs fit on the screen

An open widget shows lines that are as wide as it is, at most as many as it is high, or
six (`Widget.fits`).  The frame puts as many columns and rows around them as the size
calculator has left (`lines_frame`), and what it has left is never less than the frame
and the least contents take, if the screen has 26 columns and 10 rows
(`contentSize_fits`).  So a dialog fits on the screen (`dialog_fits`).

The cells of a table have to take a column of the screen for each character that they
show.  A character without a column joins the one in front of it and makes its line
wider than the table (`zero_width_cell_overflows`).

Nothing is used of how lines and cells are drawn but that each row stays as wide as it
was, with one character in each cell (`Screen.Fills`).  Of the columns that characters
take it matters in a table only that there are some (`Text.Solid`), and elsewhere not at
all; and where the columns of a table stand does not matter.
-/

namespace TerminalDialogs

open Screen

/-! ## Widgets of any kind -/

theorem Widget.fits {w : Widget} (h : w.Presentable) {width height : Nat}
    (hsize : Sized width height w) (hwidth : 1 ≤ width) (hopen : w.isDone = false) :
    Fits width height w.view := by
  have hview : w.view = w.render := by
    rw [view, hopen]
    rfl
  have hmax : max width 1 = width := Nat.max_eq_left hwidth
  rw [hview]
  cases w
  case input w =>
    obtain ⟨rfl, rfl⟩ := hsize
    exact hmax ▸ Input.fits h.1 h.2
  case confirm w =>
    obtain rfl := hsize
    exact hmax ▸ Confirm.fits h height
  case choose w =>
    obtain ⟨rfl, rfl⟩ := hsize
    exact hmax ▸ Choose.fits h
  case filter w =>
    obtain ⟨rfl, rfl⟩ := hsize
    exact hmax ▸ Filter.fits h.1 h.2
  case file w =>
    obtain ⟨rfl, rfl⟩ := hsize
    exact hmax ▸ File.fits h
  case write w =>
    obtain ⟨rfl, rfl⟩ := hsize
    exact hmax ▸ Write.fits h.1 h.2
  case spin w =>
    obtain rfl := hsize
    exact hmax ▸ Spin.fits h height
  case pager w =>
    obtain ⟨rfl, rfl⟩ := hsize
    exact Pager.fits h hwidth
  case table w =>
    obtain ⟨rfl, rfl⟩ := hsize
    exact hmax ▸ Table.fits h.1 h.2

namespace Modal

open Styled Widget

/-! ## The frame -/

/-- The frame takes the same room around all contents. -/
theorem lines_frame {width count : Nat} {content : Text} (h : Lines width count content)
    (theme : Theme) :
    Lines (width + frameColumns) (count + frameRows) (frame content theme) := by
  obtain ⟨lines, hframe, hshown⟩ := frame_shows (fun line hline => (h.strip line hline).whole) theme
  have hlines := (lines_of_shows hshown (box_ne_nil content) fun _ => length_of_mem_box).1
  rwa [← hframe, widest_eq h, length_box, h.length_eq] at hlines

/-! ## The size calculator -/

theorem contentSize_width_le (kind : Kind) (screen : Size) : (contentSize kind screen).width ≤
    max (screen.width - marginColumns - frameColumns) leastWidth :=
  Nat.min_le_left _ _

theorem contentSize_height_le (kind : Kind) (screen : Size) : (contentSize kind screen).height ≤
    max (screen.height - marginRows - frameRows) leastHeight := by
  simp only [contentSize]
  split
  · exact Nat.le_refl _
  · exact Nat.min_le_left _ _

/-- What the size calculator leaves for the frame is enough. -/
theorem contentSize_fits (kind : Kind) {screen : Size} (hwidth : 26 ≤ screen.width)
    (hheight : 10 ≤ screen.height) :
    (contentSize kind screen).width + frameColumns ≤ screen.width ∧
      max (contentSize kind screen).height 6 + frameRows ≤ screen.height := by
  have hcolumns := contentSize_width_le kind screen
  have hrows := contentSize_height_le kind screen
  simp only [marginColumns, frameColumns, paddingColumns, leastWidth] at hcolumns ⊢
  simp only [marginRows, frameRows, paddingRows, leastHeight] at hrows ⊢
  omega

/-! ## The dialog -/

/-- **A dialog fits on the screen.**  A widget is made from strings of solitary
characters without escape sequences, and told of solitary characters and files with such
names only; the cells of a table take a column for each character they show.  If it is
open some time after it was given a size of at least one column,

* each line that it shows is just as wide as it was told to be, and there are at most as
  many as it was told, or six;
* if the size was calculated for a screen of at least 26 columns and 10 rows, the framed
  block has no more columns and rows than the screen.

Any drawing by which rows stay drawn (`Screen.Fills`) would do. -/
theorem dialog_fits {tree : Files.Tree} {kind : Kind} {options : Json} {p : Palette}
    {start w : Widget} (hmake : make tree kind options p = .ok start)
    (htree : ∀ name, tree.Names name → Text.Loose name)
    (hoptions : options.All fun s => Text.Loose s ∧ esc ∉ s)
    (hcells : ∀ t, start = .table t → ∀ s ∈ t.options.cells, Text.Solid s)
    {before later : List Call} (hbefore : ∀ c ∈ before, c.Loose)
    (hlater : ∀ c ∈ later, c.Loose ∧ c.isResize = false) {size : Size} (hwidth : 1 ≤ size.width)
    (hafter : start.after (before ++ .resize size.width size.height :: later) = w)
    (hopen : w.isDone = false) :
    ((∀ line ∈ Text.rows w.view, Styled.width line = size.width) ∧
      (Text.rows w.view).length ≤ max size.height 6) ∧
    ∀ (screen : Size) (theme : Theme), 26 ≤ screen.width → 10 ≤ screen.height →
      contentSize kind screen = size →
      widest (Text.rows (frame w.view theme)) ≤ screen.width ∧
        (Text.rows (frame w.view theme)).length ≤ screen.height := by
  have hstart := presentable_make hmake htree hoptions hcells
  have hcalls : ∀ c ∈ before ++ .resize size.width size.height :: later, c.Loose := by
    rw [List.forall_mem_append, List.forall_mem_cons]
    exact ⟨hbefore, trivial, fun c hc => (hlater c hc).1⟩
  have hpresentable : w.Presentable := hafter ▸ hstart.after hcalls
  have hsized : Sized size.width size.height w := by
    rw [after_append, after_cons] at hafter
    exact hafter ▸ (sized_setSize _ _ _).after fun c hc => (hlater c hc).2
  have hfits := Widget.fits hpresentable hsized hwidth hopen
  refine ⟨⟨fun line hline => (hfits.strip line hline).width_eq, hfits.length_le⟩, ?_⟩
  rintro screen theme hcolumns hrows rfl
  have hframe := lines_frame ⟨hfits.strip, rfl⟩ theme
  obtain ⟨hwide, hhigh⟩ := contentSize_fits kind hcolumns hrows
  rw [widest_eq hframe, hframe.length_eq]
  exact ⟨hwide, Nat.le_trans (Nat.add_le_add_right hfits.length_le _) hhigh⟩

/-- A table with a title and a border. -/
def sampleTable : Json :=
  .object [("title".toList, .string "Files".toList), ("border".toList, .bool true),
    ("columns".toList, .array [.string "Name".toList]),
    ("rows".toList, .array [.array [.string "notes".toList], .array [.string "größe".toList]])]

/-- A directory with one file. -/
def sampleTree : Files.Tree := { entries := [(["notes".toList], .file 3)] }

/-- The table on the least screen, between keys and after a smaller size. -/
theorem dialog_fits_sampleTable : ∃ start w,
    make sampleTree .table sampleTable Palette.standalone = .ok start ∧
      start.after [.resize 9 4, .message sampleTree (.key { code := .down }), .resize 20 3,
        .message sampleTree (.key { code := .char 'k' })] = w ∧ w.isDone = false ∧
      ((∀ line ∈ Text.rows w.view, Styled.width line = 20) ∧ (Text.rows w.view).length ≤ 6) ∧
      ∀ theme, widest (Text.rows (frame w.view theme)) ≤ 26 ∧
        (Text.rows (frame w.view theme)).length ≤ 10 := by
  have htree : ∀ name, sampleTree.Names name → Text.Loose name := by
    rintro name (h | ⟨e, he, hname⟩)
    · exact absurd h List.not_mem_nil
    · obtain rfl := List.mem_singleton.mp he
      rw [List.mem_singleton.mp hname]
      decide
  have hoptions : sampleTable.All fun s => Text.Loose s ∧ esc ∉ s := by
    simp only [sampleTable, Json.all_object, Json.all_array, Json.all_string, Json.all_bool,
      List.forall_mem_cons, List.not_mem_nil, IsEmpty.forall_iff, implies_true, and_true]
    decide +kernel
  have hkey {code : KeyCode} (hcode : ∀ c, code = .char c → Text.Solitary c) :
      (Call.message sampleTree (.key { code })).Loose := by
    refine ⟨htree, fun k c h => ?_⟩
    obtain rfl := Message.key.inj h
    exact hcode c
  have hdown : (Call.message sampleTree (.key { code := .down })).Loose :=
    hkey fun _ h => KeyCode.noConfusion h
  have hup : (Call.message sampleTree (.key { code := .char 'k' })).Loose := by
    refine hkey fun c h => ?_
    obtain rfl := KeyCode.char.inj h
    decide
  have hfits := @dialog_fits sampleTree .table sampleTable Palette.standalone _ _ rfl htree hoptions
    (by rintro t ⟨⟩; decide +kernel)
    [.resize 9 4, .message sampleTree (.key { code := .down })]
    [.message sampleTree (.key { code := .char 'k' })]
    (List.forall_mem_cons.mpr ⟨trivial, List.forall_mem_singleton.mpr hdown⟩)
    (List.forall_mem_singleton.mpr ⟨hup, rfl⟩) ⟨20, 3⟩ (by decide) rfl rfl
  exact ⟨_, _, rfl, rfl, rfl, hfits.1, fun theme =>
    hfits.2 ⟨26, 10⟩ theme (by decide) (by decide) rfl⟩

/-- A table with a character that takes no column. -/
def zeroWidthTable : Json :=
  .object [("rows".toList, .array [.array [.string "a\u200bb".toList]])]

/-- A character without a column makes the line of its cell wider than the table, and the
block wider than the screen that the size was calculated for. -/
theorem zero_width_cell_overflows : ∃ start,
    make {} .table zeroWidthTable Palette.standalone = .ok start ∧
      zeroWidthTable.All (fun s => Text.Loose s ∧ esc ∉ s) ∧
      contentSize .table ⟨26, 14⟩ = ⟨20, 6⟩ ∧ (start.after [.resize 20 6]).isDone = false ∧
      (∃ line ∈ Text.rows (start.after [.resize 20 6]).view, Styled.width line = 21) ∧
      widest (Text.rows (frame (start.after [.resize 20 6]).view
        ⟨⟨26, 26, 46⟩, ⟨124, 58, 237⟩, ⟨124, 58, 237⟩⟩)) = 27 := by
  refine ⟨_, rfl, ?_, rfl, rfl, ?_, ?_⟩
  · simp only [zeroWidthTable, Json.all_object, Json.all_array, Json.all_string,
      List.forall_mem_cons, List.not_mem_nil, IsEmpty.forall_iff, implies_true, and_true]
    decide +kernel
  · decide +kernel
  · decide +kernel

end Modal
end TerminalDialogs
