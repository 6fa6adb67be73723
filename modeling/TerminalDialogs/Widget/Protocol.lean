import TerminalDialogs.Json.Printer
import TerminalDialogs.Key
import TerminalDialogs.Widget.Kind

/-!
# What widgets are told and what they answer

A widget is driven by messages and may ask for effects; it never acts by
itself.  Once it is submitted or cancelled it is done and stays so.  What it
yields is a value whose shape belongs to its kind, and that value has a form on
the wire.
-/

namespace TerminalDialogs
namespace Widget

/-- What a command left behind. -/
structure Output where
  stdout : Text := []
  stderr : Text := []
  exitCode : Int := 0
  deriving DecidableEq, Repr

/-- What a widget is told. -/
inductive Message where
  /-- A key event. -/
  | key (k : Key)
  /-- A delay that was asked for is over. -/
  | tick
  /-- The command that was asked for has ended. -/
  | finished (output : Output)
  deriving DecidableEq, Repr

/-- What a widget asks for. -/
inductive Effect where
  /-- To be told after a delay. -/
  | tick (milliseconds : Nat)
  /-- To run a command and be told when it has ended. -/
  | run (command : List Text)
  /-- Several effects. -/
  | batch (effects : List Effect)
  deriving Repr

/-- How far a widget has come. -/
inductive Phase where
  | open
  | submitted
  | cancelled
  deriving DecidableEq, Repr

/-- Whether nothing more will happen. -/
def Phase.isDone : Phase → Bool
  | .open => false
  | _ => true

/-- Whether the widget was dismissed. -/
def Phase.isCancelled : Phase → Bool
  | .cancelled => true
  | _ => false

@[simp] theorem Phase.isDone_of_isCancelled (p : Phase) (h : p.isCancelled = true) :
    p.isDone = true := by
  cases p <;> simp_all [Phase.isCancelled, Phase.isDone]

/-- A row of a table that was chosen.  Its position is negative if there is
none. -/
structure Selection where
  index : Int
  row : List Text
  deriving DecidableEq, Repr

/-- Nothing was chosen. -/
def Selection.nothing : Selection := ⟨-1, []⟩

/-- What a widget yields. -/
inductive Value where
  | text (s : Text)
  | bool (b : Bool)
  | list (items : List Text)
  | row (selection : Selection)
  | output (output : Output)
  | nothing
  deriving DecidableEq, Repr

/-- The name of the shape of a value. -/
def Value.shape : Value → Text
  | .text _ => "text".toList
  | .bool _ => "bool".toList
  | .list _ => "list".toList
  | .row _ => "row".toList
  | .output _ => "spin".toList
  | .nothing => "none".toList

/-- An object with one member. -/
def one (key : String) (value : Json) : Json := .object [(key.toList, value)]

/-- A selection on the wire. -/
def Selection.wire (s : Selection) : Json :=
  Json.ofMembers
    [("selected_index".toList, Json.ofInt s.index), ("selected_row".toList, Json.ofTexts s.row)]

/-- The output of a command on the wire. -/
def Output.wire (o : Output) : Json :=
  Json.ofMembers
    [("stdout".toList, .string o.stdout), ("stderr".toList, .string o.stderr),
      ("exit_code".toList, Json.ofInt o.exitCode)]

/-- A value on the wire.  A value that does not belong to the kind is replaced
by the empty value of that kind. -/
def wire : Kind → Value → Json
  | .choose, .list items => one "selected" (Json.ofTexts items)
  | .choose, _ => one "selected" (.array [])
  | .filter, .list items => one "selected" (Json.ofTexts items)
  | .filter, _ => one "selected" (.array [])
  | .confirm, .bool b => one "confirmed" (.bool b)
  | .confirm, _ => one "confirmed" (.bool false)
  | .input, .text s => one "value" (.string s)
  | .input, _ => one "value" (.string [])
  | .write, .text s => one "value" (.string s)
  | .write, _ => one "value" (.string [])
  | .file, .text s => one "path" (.string s)
  | .file, _ => one "path" (.string [])
  | .table, .row selection => selection.wire
  | .table, _ => Selection.nothing.wire
  | .spin, .output o => o.wire
  | .spin, _ => ({} : Output).wire
  | .pager, _ => .object []

/-- Why a widget could not be made or yields nothing. -/
inductive Error where
  /-- The widget was dismissed. -/
  | cancelled
  /-- There is no kind of this name. -/
  | unknownKind (name : Text)
  /-- The options do not fit the kind. -/
  | invalidOptions (kind : Kind) (reason : Text)
  deriving DecidableEq, Repr

/-- What is said about an error. -/
def Error.message : Error → Text
  | .cancelled => "cancelled by user".toList
  | .unknownKind name => "unknown component type: ".toList ++ name
  | .invalidOptions kind reason =>
      "invalid ".toList ++ kind.name ++ " options: ".toList ++ reason

/-- The kind with the given name. -/
def Kind.parse (name : Text) : Except Error Kind :=
  match Kind.ofName? name with
  | some kind => .ok kind
  | none => .error (.unknownKind name)

end Widget
end TerminalDialogs
