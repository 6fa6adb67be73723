import TerminalDialogs.Json.Basic
import TerminalDialogs.Number.Shortest
import TerminalDialogs.Text.Hex

/-!
# Writing JSON

A value is written on one line without blanks, or spread over lines with two
blanks for each level.  In a string only what must be escaped is escaped: the
quotation mark, the backslash and the control characters below the blank, with
the short form where there is one.
-/

namespace TerminalDialogs
namespace Json

/-- One character inside a string. -/
def escapeChar (c : Char) : Text :=
  if c = '"' then ['\\', '"']
  else if c = '\\' then ['\\', '\\']
  else if c = '\n' then ['\\', 'n']
  else if c = '\r' then ['\\', 'r']
  else if c = '\t' then ['\\', 't']
  else if c = '\x08' then ['\\', 'b']
  else if c = '\x0c' then ['\\', 'f']
  else if c.toNat < 0x20 then
    ['\\', 'u', '0', '0', Hex.digit (c.toNat / 16), Hex.digit (c.toNat % 16)]
  else [c]

/-- A string with its quotation marks. -/
def quote (s : Text) : Text := ['"'] ++ s.flatMap escapeChar ++ ['"']

/-- A number. -/
def Number.render : Number → Text
  | .natural n => Text.ofNat n
  | .negative magnitude => '-' :: Text.ofNat magnitude
  | .float x => if x.isFinite then Number.renderShortest x else "null".toList

mutual

/-- A value on one line, without blanks. -/
def compact : Json → Text
  | .null => "null".toList
  | .bool true => "true".toList
  | .bool false => "false".toList
  | .number n => n.render
  | .string s => quote s
  | .array elements => ['['] ++ Text.join [','] (compactAll elements) ++ [']']
  | .object members => ['\x7b'] ++ Text.join [','] (compactMembers members) ++ ['\x7d']

/-- The elements of an array. -/
def compactAll : List Json → List Text
  | [] => []
  | value :: values => compact value :: compactAll values

/-- The members of an object. -/
def compactMembers : List (Text × Json) → List Text
  | [] => []
  | (key, value) :: members => (quote key ++ [':'] ++ compact value) :: compactMembers members

end

/-- Members on one line, in the given order, as an object. -/
def compactRecord (members : List (Text × Json)) : Text :=
  ['\x7b'] ++ Text.join [','] (compactMembers members) ++ ['\x7d']

/-- An object of strings spread over lines. -/
def prettyRecord (fields : List (Text × Text)) : Text :=
  let field (f : Text × Text) : Text := "  ".toList ++ quote f.1 ++ ": ".toList ++ quote f.2
  ['\x7b', '\n'] ++ Text.join [',', '\n'] (fields.map field) ++ ['\n', '\x7d']

end Json
end TerminalDialogs
