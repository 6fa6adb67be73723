import TerminalDialogs.Text

/-!
# The kinds of widgets

There are nine kinds.  Each has a name by which it is requested; the editor is
also known as `textarea`.
-/

namespace TerminalDialogs
namespace Widget

/-- A kind of widget. -/
inductive Kind where
  | input
  | confirm
  | choose
  | filter
  | file
  | write
  | spin
  | pager
  | table
  deriving DecidableEq, Repr

namespace Kind

/-- Every kind. -/
def all : List Kind :=
  [.input, .confirm, .choose, .filter, .file, .write, .spin, .pager, .table]

/-- The name of a kind. -/
def name : Kind → Text
  | .input => "input".toList
  | .confirm => "confirm".toList
  | .choose => "choose".toList
  | .filter => "filter".toList
  | .file => "file".toList
  | .write => "write".toList
  | .spin => "spin".toList
  | .pager => "pager".toList
  | .table => "table".toList

/-- The kind with the given name. -/
def ofName? (s : Text) : Option Kind :=
  if s = "textarea".toList then some .write else all.find? fun k => k.name == s

end Kind

end Widget
end TerminalDialogs
