import TerminalDialogs.Options.Kinds
import TerminalDialogs.Widget.Draw
import TerminalDialogs.Widget.Protocol

/-!
# The spinner

A spinner is shown while a command runs.  It asks for the command to be run and
for ticks, each of which shows the next picture, and it is submitted when the
command has ended.  Without a command it is submitted at once.
-/

namespace TerminalDialogs
namespace Widget

open Modal Screen

namespace Spin

/-- The pictures of an animation; one that is not known shows moving dots. -/
def frames (name : Text) : List Text :=
  let named : List (String × List String) :=
    [("line", ["|", "/", "-", "\\"]),
      ("minidot", ["⠋", "⠙", "⠚", "⠞", "⠖", "⠦", "⠴", "⠲", "⠳", "⠓"]),
      ("jump", ["⢄", "⢂", "⢁", "⡁", "⡈", "⡐", "⡠"]),
      ("pulse", ["█", "▓", "▒", "░"]),
      ("points", ["∙∙∙", "●∙∙", "∙●∙", "∙∙●"]),
      ("globe", ["🌍", "🌎", "🌏"]),
      ("moon", ["🌑", "🌒", "🌓", "🌔", "🌕", "🌖", "🌗", "🌘"]),
      ("meter", ["▱▱▱", "▰▱▱", "▰▰▱", "▰▰▰", "▰▰▱", "▰▱▱", "▱▱▱"]),
      ("hamburger", ["☱", "☲", "☴", "☲"]),
      ("ellipsis", ["", ".", "..", "..."])]
  let dots := ["⠋", "⠙", "⠹", "⠸", "⠼", "⠴", "⠦", "⠧", "⠇", "⠏"]
  match named.find? fun n => n.1.toList == name with
  | some n => n.2.map String.toList
  | none => dots.map String.toList

/-- The milliseconds between two pictures. -/
def interval : Nat := 100

end Spin

/-- A spinner. -/
structure Spin where
  options : Options.Spin
  frame : Nat := 0
  output : Output := {}
  palette : Palette
  phase : Phase := .open
  width : Nat := 80
  deriving DecidableEq, Repr

namespace Spin

/-- The spinner at first. -/
def make (options : Options.Spin) (palette : Palette) : Spin :=
  { options, palette, phase := if options.command.isEmpty then .submitted else .open }

/-- What the spinner asks for at first. -/
def init (w : Spin) : Option Effect :=
  if w.phase.isDone then none
  else some (.batch [.run w.options.command, .tick interval])

/-- What a key does. -/
def handleKey (w : Spin) (k : Key) : Spin :=
  if k.isCancel then { w with phase := .cancelled } else w

/-- Shows the next picture. -/
def advance (w : Spin) : Spin :=
  { w with frame := (w.frame + 1) % max (frames w.options.spinner).length 1 }

/-- The command has ended. -/
def finish (w : Spin) (output : Output) : Spin := { w with output, phase := .submitted }

/-- What the spinner yields. -/
def value (w : Spin) : Value := .output w.output

/-- Changes the room for the spinner. -/
def setSize (w : Spin) (width _height : Nat) : Spin := { w with width }

/-- The spinner as text. -/
def view (w : Spin) : Text :=
  let p := w.palette
  let picture := ((frames w.options.spinner)[w.frame]?).getD []
  renderLines
    [[⟨picture, Style.fg p.accent⟩, ⟨[' '], {}⟩, ⟨w.options.title, Style.fg p.text⟩]] w.width p

end Spin

end Widget
end TerminalDialogs
