import TerminalDialogs.Text

/-!
# Keys

A key event says which key it was, which modifiers were held, and whether the
key was pressed, held or released.  A shifted letter is the capital letter
itself.
-/

namespace TerminalDialogs

/-- A key of the keyboard. -/
inductive KeyCode where
  | char (c : Char)
  | enter
  | escape
  | tab
  | backTab
  | backspace
  | delete
  | insert
  | up
  | down
  | left
  | right
  | home
  | endKey
  | pageUp
  | pageDown
  | null
  | capsLock
  | function (n : Nat)
  deriving DecidableEq, Repr

/-- What happened to a key. -/
inductive KeyAction where
  | press
  | hold
  | release
  deriving DecidableEq, Repr

/-- A key event. -/
structure Key where
  code : KeyCode
  ctrl : Bool := false
  alt : Bool := false
  shift : Bool := false
  action : KeyAction := .press
  deriving DecidableEq, Repr

namespace Key

/-- Whether the key was pressed. -/
def isPress (k : Key) : Bool := k.action == .press

/-- Whether the key dismisses a widget: Escape, or C with Control. -/
def isCancel (k : Key) : Bool := k.code == .escape || (k.code == .char 'c' && k.ctrl)

end Key

end TerminalDialogs
