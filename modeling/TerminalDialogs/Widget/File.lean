import TerminalDialogs.Files.Tree
import TerminalDialogs.Number.Significant
import TerminalDialogs.Options.Kinds
import TerminalDialogs.Text.Lower
import TerminalDialogs.Widget.Draw
import TerminalDialogs.Widget.ListCursor
import TerminalDialogs.Widget.Protocol

/-!
# The file picker

One directory is listed at a time.  Directories can be entered and left, and
what is under the cursor can be picked if its kind and, for a file, its ending
are allowed; a directory that cannot be picked is entered instead.
-/

namespace TerminalDialogs
namespace Widget

open Modal Screen

/-- A file picker. -/
structure File where
  options : Options.File
  /-- The directory that is listed. -/
  directory : Text := []
  entries : List Files.Listed := []
  /-- Why the directory cannot be listed. -/
  problem : Option Files.ListError := none
  position : ListCursor := {}
  /-- What was picked. -/
  picked : Option Text := none
  palette : Palette
  phase : Phase := .open
  width : Nat := 80
  height : Nat := 12
  deriving DecidableEq, Repr

namespace File

/-- Lists a directory. -/
def openDirectory (tree : Files.Tree) (w : File) (directory : Text) : File :=
  match tree.list w.options.showHidden directory with
  | .ok entries => { w with directory, entries, problem := none, position := {} }
  | .error e => { w with directory, entries := [], problem := some e, position := {} }

/-- The options with files allowed if nothing else is. -/
def allowSomething (options : Options.File) : Options.File :=
  { options with fileAllowed := options.fileAllowed || !options.dirAllowed }

/-- The path of the working directory. -/
def workingPath (tree : Files.Tree) : Text := '/' :: Text.join ['/'] tree.working

/-- The picker at first. -/
def make (tree : Files.Tree) (options : Options.File) (palette : Palette) : File :=
  let options := allowSomething options
  openDirectory tree { options, palette }
    (if options.path.isEmpty then workingPath tree else options.path)

/-- Whether the ending of a name is allowed.  Dots in front of an ending and
the case of its letters do not count. -/
def extensionAllowed (options : Options.File) (name : Text) : Bool :=
  if options.extensions.isEmpty then true
  else
    match Path.extension? name with
    | none => false
    | some ending =>
        options.extensions.any fun allowed =>
          Text.lower (allowed.dropWhile (· == '.')) == Text.lower ending

/-- Whether a file of this name can be picked. -/
def fileAllowed (options : Options.File) (name : Text) : Bool :=
  options.fileAllowed && extensionAllowed options name

/-- The lines above the list. -/
def header (w : File) : List Line :=
  headerLines w.options.title w.options.description w.palette ++
    [[⟨w.directory, Style.fg w.palette.secondary⟩]]

/-- The rows of the list. -/
def rows (w : File) : Nat := listRows w.height (w.header.length + 1) w.options.height

/-- Moves the cursor. -/
def move (w : File) (m : ListCursor.Motion) : File :=
  { w with position := w.position.move w.entries.length w.rows m }

/-- The entry under the cursor. -/
def current? (w : File) : Option Files.Listed := w.entries[w.position.cursor]?

/-- Enters the directory under the cursor. -/
def descend (tree : Files.Tree) (w : File) : File :=
  match w.current? with
  | none => w
  | some e =>
      if e.isDirectory then openDirectory tree w (Path.child w.directory e.name) else w

/-- Goes to the parent, with the cursor on the directory that was left. -/
def ascend (tree : Files.Tree) (w : File) : File :=
  match Path.parent? w.directory with
  | none => w
  | some parent =>
      let opened := openDirectory tree w parent
      match Path.name? w.directory with
      | none => opened
      | some name =>
          match opened.entries.findIdx? fun e => e.name == name with
          | none => opened
          | some i => opened.move (.forward i)

/-- Picks what is under the cursor. -/
def pick (w : File) (name : Text) : File :=
  { w with picked := some (Path.child w.directory name), phase := .submitted }

/-- Picks or enters what is under the cursor. -/
def choose (tree : Files.Tree) (w : File) : File :=
  match w.current? with
  | none => w
  | some e =>
      if e.isDirectory then
        if w.options.dirAllowed then w.pick e.name else w.descend tree
      else if fileAllowed w.options e.name then w.pick e.name
      else w

/-- What a key does. -/
def handleKey (tree : Files.Tree) (w : File) (k : Key) : File :=
  if k.isCancel then { w with phase := .cancelled }
  else
    match k.code with
    | .up | .char 'k' => w.move (.back 1)
    | .down | .char 'j' => w.move (.forward 1)
    | .pageUp => w.move (.back w.rows)
    | .pageDown => w.move (.forward w.rows)
    | .home | .char 'g' => w.move .first
    | .endKey | .char 'G' => w.move .last
    | .right | .char 'l' => w.descend tree
    | .left | .char 'h' | .backspace => w.ascend tree
    | .enter => w.choose tree
    | _ => w

/-- What the picker yields. -/
def value (w : File) : Value := .text (w.picked.getD [])

/-- Changes the room for the picker. -/
def setSize (w : File) (width height : Nat) : File :=
  { w with width, height }.move (.forward 0)

/-- How often a number of bytes is divided by 1024 for its unit, up to four
times. -/
def unitsUp (bytes : Nat) : Nat :=
  if bytes < Nat.pow 1024 2 then 1
  else if bytes < Nat.pow 1024 3 then 2
  else if bytes < Nat.pow 1024 4 then 3
  else 4

/-- A number of bytes for people, with one place behind the point. -/
def humanSize (bytes : Nat) : Text :=
  if bytes < 1024 then Text.ofNat bytes ++ ['B']
  else
    let bytes := Number.roundSignificant bytes
    let units := unitsUp bytes
    let tenths := Number.nearestEven (10 * bytes) (Nat.pow 1024 units)
    Text.ofNat (tenths / 10) ++ ['.'] ++ Text.ofNat (tenths % 10) ++
      [(['K', 'M', 'G', 'T'][units - 1]?).getD 'T']

/-- The style of an entry. -/
def entryStyle (w : File) (e : Files.Listed) (focused : Bool) : Style :=
  let p := w.palette
  if focused then boldStyle p.accent
  else if e.isDirectory then Style.fg p.secondary
  else if fileAllowed w.options e.name then Style.fg p.text
  else Style.fg p.dim

/-- The line of an entry. -/
def entryLine (w : File) (e : Files.Listed) (focused : Bool) : Line :=
  let style := w.entryStyle e focused
  let size : List Span :=
    if w.options.showSize then
      let text := if e.isDirectory then ['-'] else humanSize e.size
      [⟨Text.padLeft 7 text ++ [' '], Style.fg w.palette.dim⟩]
    else []
  [⟨if focused then "> ".toList else "  ".toList, style⟩] ++ size ++
    [⟨if e.isDirectory then e.name ++ ['/'] else e.name, style⟩]

/-- What is shown instead of entries. -/
def notice (w : File) : List Line :=
  match w.problem with
  | some e => [[⟨e.message, Style.fg w.palette.failure⟩]]
  | none => if w.entries.isEmpty then [hintLine "(empty)".toList w.palette] else []

/-- The picker as text. -/
def view (w : File) : Text :=
  let shown := (w.entries.zipIdx.drop w.position.offset).take w.rows
  let entries := shown.map fun numbered =>
    w.entryLine numbered.1 (numbered.2 == w.position.cursor)
  renderLines
    (w.header ++ w.notice ++ entries ++
      [hintLine "←/→ navigate • enter select • esc cancel".toList w.palette])
    w.width w.palette

end File

end Widget
end TerminalDialogs
