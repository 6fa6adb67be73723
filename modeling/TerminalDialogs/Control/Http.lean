import TerminalDialogs.Text.Utf8

/-!
# Requests and answers of the web

The control channel speaks as much of the protocol of the web as it needs: a
request has a method, a path, headers and a body, and an answer has a status and
a body.
-/

namespace TerminalDialogs
namespace Control
namespace Http

/-- A request. -/
structure Request where
  method : Text := "POST".toList
  /-- The path, and whatever follows it behind a question mark. -/
  path : Text
  headers : List (Text × Text) := []
  body : List UInt8 := []
  deriving DecidableEq, Repr

/-- The path of a request alone. -/
def Request.plainPath (r : Request) : Text := r.path.takeWhile (· != '?')

/-- Whether two names of headers are the same. -/
def sameName (a b : Text) : Bool := a.map Char.toLower == b.map Char.toLower

/-- Whether a request has a header with exactly the given value. -/
def Request.hasHeader (r : Request) (name value : Text) : Bool :=
  r.headers.any fun h => sameName h.1 name && h.2 == value

/-- An answer. -/
structure Answer where
  status : Nat
  body : Text
  /-- Whether the body is JSON. -/
  isJson : Bool := false
  deriving DecidableEq, Repr

end Http
end Control
end TerminalDialogs
