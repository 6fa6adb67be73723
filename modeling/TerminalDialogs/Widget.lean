import TerminalDialogs.Widget.Choose
import TerminalDialogs.Widget.Confirm
import TerminalDialogs.Widget.File
import TerminalDialogs.Widget.Filter
import TerminalDialogs.Widget.Input
import TerminalDialogs.Widget.Pager
import TerminalDialogs.Widget.Spin
import TerminalDialogs.Widget.Table
import TerminalDialogs.Widget.Write

/-!
# Widgets of any kind

All widgets follow one protocol.  A message changes a widget only while it is
open, and of key events only presses count; a widget that is done shows
nothing.  Those rules are stated here once, so a kind of widget only says what
a pressed key does to it.
-/

namespace TerminalDialogs

open Modal (Palette Theme)

/-- A widget. -/
inductive Widget where
  | input (w : Widget.Input)
  | confirm (w : Widget.Confirm)
  | choose (w : Widget.Choose)
  | filter (w : Widget.Filter)
  | file (w : Widget.File)
  | write (w : Widget.Write)
  | spin (w : Widget.Spin)
  | pager (w : Widget.Pager)
  | table (w : Widget.Table)
  deriving DecidableEq, Repr

namespace Widget

/-- The kind of a widget. -/
def kind : Widget → Kind
  | .input _ => .input
  | .confirm _ => .confirm
  | .choose _ => .choose
  | .filter _ => .filter
  | .file _ => .file
  | .write _ => .write
  | .spin _ => .spin
  | .pager _ => .pager
  | .table _ => .table

/-- How far a widget has come. -/
def phase : Widget → Phase
  | .input w => w.phase
  | .confirm w => w.phase
  | .choose w => w.phase
  | .filter w => w.phase
  | .file w => w.phase
  | .write w => w.phase
  | .spin w => w.phase
  | .pager w => w.phase
  | .table w => w.phase

/-- Whether nothing more will happen. -/
def isDone (w : Widget) : Bool := w.phase.isDone

/-- Whether the widget was dismissed. -/
def isCancelled (w : Widget) : Bool := w.phase.isCancelled

/-- What a pressed key does to an open widget. -/
def handleKey (tree : Files.Tree) (k : Key) : Widget → Widget
  | .input w => .input (w.handleKey k)
  | .confirm w => .confirm (w.handleKey k)
  | .choose w => .choose (w.handleKey k)
  | .filter w => .filter (w.handleKey k)
  | .file w => .file (w.handleKey tree k)
  | .write w => .write (w.handleKey k)
  | .spin w => .spin (w.handleKey k)
  | .pager w => .pager (w.handleKey k)
  | .table w => .table (w.handleKey k)

/-- What a tick does to an open widget. -/
def tick : Widget → Widget × Option Effect
  | .spin w => (.spin w.advance, some (.tick Spin.interval))
  | w => (w, none)

/-- What the end of a command does to an open widget. -/
def finish (output : Output) : Widget → Widget
  | .spin w => .spin (w.finish output)
  | w => w

/-- What a message does to a widget, and what the widget asks for. -/
def update (tree : Files.Tree) (m : Message) (w : Widget) : Widget × Option Effect :=
  if w.isDone then (w, none)
  else
    match m with
    | .key k => if k.isPress then (w.handleKey tree k, none) else (w, none)
    | .tick => w.tick
    | .finished output => (w.finish output, none)

/-- What a widget asks for at first. -/
def init : Widget → Option Effect
  | .spin w => w.init
  | _ => none

/-- Changes the room for a widget. -/
def setSize (width height : Nat) : Widget → Widget
  | .input w => .input (w.setSize width height)
  | .confirm w => .confirm (w.setSize width height)
  | .choose w => .choose (w.setSize width height)
  | .filter w => .filter (w.setSize width height)
  | .file w => .file (w.setSize width height)
  | .write w => .write (w.setSize width height)
  | .spin w => .spin (w.setSize width height)
  | .pager w => .pager (w.setSize width height)
  | .table w => .table (w.setSize width height)

/-- An open widget as text. -/
def render : Widget → Text
  | .input w => w.view
  | .confirm w => w.view
  | .choose w => w.view
  | .filter w => w.view
  | .file w => w.view
  | .write w => w.view
  | .spin w => w.view
  | .pager w => w.view
  | .table w => w.view

/-- A widget as text; one that is done shows nothing. -/
def view (w : Widget) : Text := if w.isDone then [] else w.render

/-- What a widget holds. -/
def value : Widget → Value
  | .input w => w.value
  | .confirm w => w.value
  | .choose w => w.value
  | .filter w => w.value
  | .file w => w.value
  | .write w => w.value
  | .spin w => w.value
  | .pager w => w.value
  | .table w => w.value

/-- What a widget yields, unless it was dismissed. -/
def result (w : Widget) : Except Error Value :=
  if w.isCancelled then .error .cancelled else .ok w.value

/-- Reads the options of a kind. -/
def readOptions {σ : Type} (kind : Kind) (name : String) (fields : List (Options.Field σ))
    (defaults : σ) (j : Json) : Except Error σ :=
  match Options.readRecord name fields defaults j with
  | .ok options => .ok options
  | .error m => .error (.invalidOptions kind m.message)

/-- A widget of some kind on a palette. -/
def make (tree : Files.Tree) (kind : Kind) (options : Json) (p : Palette) :
    Except Error Widget :=
  match kind with
  | .input => do
      pure (.input (Input.make
        (← readOptions kind "InputOptions" Options.Input.fields {} options) p))
  | .confirm => do
      pure (.confirm (Confirm.make
        (← readOptions kind "ConfirmOptions" Options.Confirm.fields {} options) p))
  | .choose => do
      pure (.choose (Choose.make
        (← readOptions kind "ChooseOptions" Options.Choose.fields {} options) p))
  | .filter => do
      pure (.filter (Filter.make
        (← readOptions kind "FilterOptions" Options.Filter.fields {} options) p))
  | .file => do
      pure (.file (File.make tree
        (← readOptions kind "FileOptions" Options.File.fields {} options) p))
  | .write => do
      pure (.write (Write.make
        (← readOptions kind "WriteOptions" Options.Write.fields {} options) p))
  | .spin => do
      pure (.spin (Spin.make
        (← readOptions kind "SpinOptions" Options.Spin.fields {} options) p))
  | .pager => do
      pure (.pager (Pager.make
        (← readOptions kind "PagerOptions" Options.Pager.fields {} options) p))
  | .table => do
      pure (.table (Table.make
        (← readOptions kind "TableOptions" Options.Table.fields {} options) p))

/-- A widget that owns the terminal. -/
def standalone (tree : Files.Tree) (kind : Kind) (options : Json) : Except Error Widget :=
  make tree kind options Palette.standalone

/-- A widget in a dialog of the given size. -/
def inDialog (tree : Files.Tree) (kind : Kind) (options : Json) (width height : Nat)
    (theme : Theme) : Except Error Widget := do
  pure ((← make tree kind options theme.palette).setSize width height)

end Widget

end TerminalDialogs
