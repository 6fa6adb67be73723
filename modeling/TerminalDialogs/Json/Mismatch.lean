import TerminalDialogs.Json.Printer
import TerminalDialogs.Text.Visible

/-!
# Values of the wrong shape

A record is read from an object by the names of its fields, or from an array by
their order.  What can go wrong is a `Mismatch`: a value of another type or out
of range, too many or too few elements, or a field that is unknown, missing or
given twice.  The wording is here, once for every record of the library.
-/

namespace TerminalDialogs
namespace Json

/-- What can be wrong with the shape of a value. -/
inductive Mismatch where
  /-- A value of another type. -/
  | type (found : Json) (expected : Text)
  /-- A value of the right type that is out of range. -/
  | range (found : Json) (expected : Text)
  /-- Too many or too few elements. -/
  | length (n : Nat) (expected : Text)
  /-- A field that there is not. -/
  | unknownField (name : Text) (known : List Text)
  /-- A field that has to be given. -/
  | missingField (name : Text)
  /-- A field that is given twice. -/
  | duplicateField (name : Text)
  /-- A value that is none of several alternatives. -/
  | noVariant (name : Text)

/-- How a value is called when it is not what was expected. -/
def describe : Json → Text
  | .null => "null".toList
  | .bool true => "boolean `true`".toList
  | .bool false => "boolean `false`".toList
  | .number (.float x) =>
      "floating point `".toList ++ (Number.float x).render ++ "`".toList
  | .number n => "integer `".toList ++ n.render ++ "`".toList
  | .string s => "string ".toList ++ Text.quoteVisible s
  | .array _ => "sequence".toList
  | .object _ => "map".toList

/-- A name between backquotes. -/
def fieldName (name : Text) : Text := "`".toList ++ name ++ "`".toList

/-- What is said about a mismatch. -/
def Mismatch.message : Mismatch → Text
  | .type found expected =>
      "invalid type: ".toList ++ describe found ++ ", expected ".toList ++ expected
  | .range found expected =>
      "invalid value: ".toList ++ describe found ++ ", expected ".toList ++ expected
  | .length n expected =>
      "invalid length ".toList ++ Text.ofNat n ++ ", expected ".toList ++ expected
  | .unknownField name known =>
      "unknown field ".toList ++ fieldName name ++ ", expected one of ".toList ++
        Text.join ", ".toList (known.map fieldName)
  | .missingField name => "missing field ".toList ++ fieldName name
  | .duplicateField name => "duplicate field ".toList ++ fieldName name
  | .noVariant name => "data did not match any variant of untagged enum ".toList ++ name

end Json
end TerminalDialogs
