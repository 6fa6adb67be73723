import TerminalDialogs.Json.Record

/-!
# Requests and replies

A program asks for a widget by its name and options, and the reply carries the
result, says that the widget was dismissed, or says what went wrong.  Both
travel as JSON; what is absent is not written, and a result that is `null`
counts as absent when it is read.
-/

namespace TerminalDialogs
namespace Control

/-- A request for a widget. -/
structure Request where
  /-- The name of the kind of widget. -/
  component : Text
  options : Json := .null

/-- A reply to a request. -/
structure Response where
  result : Option Json := none
  cancelled : Bool := false
  /-- What went wrong; empty if nothing did. -/
  error : Text := []

namespace Request

/-- The record that a request is. -/
def shape : Json.RecordShape where
  name := "Request".toList
  fields := [⟨"component".toList, .string, true⟩, ⟨"options".toList, .any, false⟩]

/-- Reads a request. -/
def parse (s : Text) : Except Json.RecordError Request := do
  let given ← Json.parseRecord shape s
  pure
    { component :=
        match given.get? "component".toList with
        | some (.string name) => name
        | _ => []
      options := (given.get? "options".toList).getD .null }

/-- A request as JSON, its members in a fixed order. -/
def encode (r : Request) : Text :=
  Json.compactRecord
    [("component".toList, .string r.component), ("options".toList, r.options)]

end Request

namespace Response

/-- The widget yielded a result. -/
def ofResult (result : Json) : Response := { result := some result }

/-- The widget was dismissed. -/
def dismissed : Response := { cancelled := true }

/-- There was no widget. -/
def refused (reason : Text) : Response := { error := reason }

/-- The record that a reply is. -/
def shape : Json.RecordShape where
  name := "Response".toList
  fields := [⟨"result".toList, .any, false⟩, ⟨"cancelled".toList, .boolean, false⟩,
    ⟨"error".toList, .string, false⟩]

/-- Reads a reply. -/
def parse (s : Text) : Except Json.RecordError Response := do
  let given ← Json.parseRecord shape s
  pure
    { result :=
        match given.get? "result".toList with
        | some .null => none
        | result => result
      cancelled :=
        match given.get? "cancelled".toList with
        | some (.bool b) => b
        | _ => false
      error :=
        match given.get? "error".toList with
        | some (.string reason) => reason
        | _ => [] }

/-- The members of a reply, without those that are absent. -/
def members (r : Response) : List (Text × Json) :=
  (match r.result with
    | some result => [("result".toList, result)]
    | none => []) ++
  (if r.cancelled then [("cancelled".toList, Json.bool true)] else []) ++
  (if r.error.isEmpty then [] else [("error".toList, Json.string r.error)])

/-- A reply as JSON, its members in a fixed order. -/
def encode (r : Response) : Text := Json.compactRecord r.members

end Response

end Control
end TerminalDialogs
