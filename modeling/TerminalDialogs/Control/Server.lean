import TerminalDialogs.Control.Http
import TerminalDialogs.Control.Message

/-!
# The control server

A command that runs in a session asks for widgets over the control channel.
Requests are handled side by side, each by a handler of its own, but only one at
a time is passed on to the session: a handler waits for its turn, looks whether
the server is stopping, forwards its request, waits for the reply and gives the
turn back with its answer.

The handlers take turns in any order, so the state of the server holds all of
them, and a *move* says which of them goes on or what happens to the server.
Any way in which handlers, session and server can be interleaved is a list of
moves.
-/

namespace TerminalDialogs
namespace Control

/-! ## What is answered at once -/

/-- The text of a header that shows the token. -/
def bearer (token : Text) : Text := "Bearer ".toList ++ token

/-- A plain answer. -/
def plain (status : Nat) (body : String) : Http.Answer := { status, body := body.toList }

/-- An answer that is a reply. -/
def reply (status : Nat) (r : Response) : Http.Answer :=
  { status, body := r.encode, isJson := true }

/-- The answer while the server is stopping. -/
def shuttingDown : Http.Answer := reply 503 (.refused "server shutting down".toList)

/-- The request for a widget that a body holds, or the answer to a body that
holds none. -/
def readBody (body : List UInt8) : Except Http.Answer Request :=
  match Utf8.decode? none body with
  | none => .error (reply 400 (.refused "failed to read request body".toList))
  | some text =>
      match Request.parse text with
      | .ok r => .ok r
      | .error e => .error (reply 400 (.refused ("invalid JSON: ".toList ++ e.message)))

/-- The request for a widget that a request of the web brings, or the answer
that it gets at once. -/
def route (token : Text) (r : Http.Request) : Except Http.Answer Request :=
  if r.plainPath = "/health".toList then .error (plain 200 "ok")
  else if r.plainPath = "/tui".toList then
    if r.method ≠ "POST".toList then .error (plain 405 "method not allowed")
    else if r.hasHeader "Authorization".toList (bearer token) then readBody r.body
    else .error (plain 401 "unauthorized")
  else .error (plain 404 "not found")

/-! ## Handlers -/

/-- How far a request has been handled. -/
inductive Handler where
  | arrived (request : Http.Request)
  /-- It waits for its turn. -/
  | queued (request : Request)
  /-- It has the turn and has not looked whether the server is stopping. -/
  | chosen (request : Request)
  /-- It has the turn and is about to be forwarded. -/
  | cleared (request : Request)
  /-- It has the turn and has been forwarded under the given number. -/
  | forwarded (number : Nat)
  | answered (answer : Http.Answer)

/-- Whether a handler has the turn. -/
def Handler.hasTurn : Handler → Bool
  | .chosen _ | .cleared _ | .forwarded _ => true
  | _ => false

/-- What became of a request that was forwarded. -/
inductive Fate where
  | pending
  | replied (response : Response)
  /-- It was dropped without a reply. -/
  | dropped

/-- How far a server has come. -/
inductive ServerState where
  | created
  | running
  | stopped
  deriving DecidableEq, Repr

/-- What a state is called. -/
def ServerState.name : ServerState → Text
  | .created => "created".toList
  | .running => "running".toList
  | .stopped => "stopped".toList

/-- A control server. -/
structure Server where
  token : Text
  portNumber : Nat := 0
  state : ServerState := .created
  /-- Whether the session still takes requests. -/
  isHeard : Bool := true
  handlers : List Handler := []
  /-- The requests that were forwarded, in order, with what became of them. -/
  requests : List (Request × Fate) := []

namespace Server

/-- The address of a server. -/
def url (s : Server) : Text := "http://127.0.0.1:".toList ++ Text.ofNat s.portNumber

/-- Whether a handler has the turn. -/
def isBusy (s : Server) : Bool := s.handlers.any Handler.hasTurn

/-- Lets requests come in; a server that was started before is left alone. -/
def start (s : Server) : Except Text Server :=
  if s.state = .created then .ok { s with state := .running }
  else .error ("server cannot be started (state: ".toList ++ s.state.name ++ [')'])

/-- Lets no more requests come in. -/
def stop (s : Server) : Server := { s with state := .stopped }

/-- The session takes no more requests. -/
def hangUp (s : Server) : Server := { s with isHeard := false }

/-- A request comes in, if the server is running. -/
def accept (s : Server) (r : Http.Request) : Server :=
  if s.state = .running then { s with handlers := s.handlers ++ [.arrived r] } else s

/-- Sets what became of a forwarded request that is still pending. -/
def settle (s : Server) (number : Nat) (fate : Fate) : Server :=
  { s with
    requests := s.requests.modify number fun r =>
      match r.2 with
      | .pending => (r.1, fate)
      | _ => r }

/-- The next step of a handler, and the requests that it forwards.  A handler
that has to wait stays as it is. -/
def advance (s : Server) : Handler → Handler × List Request
  | .arrived r =>
      match route s.token r with
      | .ok request => (.queued request, [])
      | .error answer => (.answered answer, [])
  | .queued request => (if s.isBusy then .queued request else .chosen request, [])
  | .chosen request =>
      (if s.state = .stopped then .answered shuttingDown else .cleared request, [])
  | .cleared request =>
      if s.isHeard then (.forwarded s.requests.length, [request])
      else (.answered shuttingDown, [])
  | .forwarded number =>
      match (s.requests[number]?).map Prod.snd with
      | some (.replied response) => (.answered (reply 200 response), [])
      | some .dropped => (.answered shuttingDown, [])
      | _ => (if s.state = .stopped then .answered shuttingDown else .forwarded number, [])
  | .answered answer => (.answered answer, [])

/-- The handler at a position takes its next step. -/
def advanceAt (s : Server) (i : Nat) : Server :=
  match s.handlers[i]? with
  | none => s
  | some h =>
      let (next, forwarded) := s.advance h
      { s with
        handlers := s.handlers.set i next
        requests := s.requests ++ forwarded.map fun r => (r, .pending) }

/-- What can happen next. -/
inductive Move where
  | accept (request : Http.Request)
  /-- A handler takes its next step. -/
  | advance (handler : Nat)
  | reply (number : Nat) (response : Response)
  | drop (number : Nat)
  | stop
  | hangUp

/-- Makes a move. -/
def move (s : Server) : Move → Server
  | .accept r => s.accept r
  | .advance i => s.advanceAt i
  | .reply number response => s.settle number (.replied response)
  | .drop number => s.settle number .dropped
  | .stop => s.stop
  | .hangUp => s.hangUp

/-- Makes moves one after the other. -/
def run (s : Server) (moves : List Move) : Server := moves.foldl move s

/-- The requests that were forwarded and neither replied to nor dropped. -/
def pending (s : Server) : List Request :=
  s.requests.filterMap fun r =>
    match r.2 with
    | .pending => some r.1
    | _ => none

/-- The steps that a handler takes by itself at most. -/
def stepsAtMost : Nat := 5

/-- Lets the newest handler go on as far as it can. -/
def advanceNewest (s : Server) : Server :=
  s.run (List.replicate stepsAtMost (.advance (s.handlers.length - 1)))

/-- The answer of the newest handler, if it has one. -/
def newestAnswer? (s : Server) : Option Http.Answer :=
  match s.handlers.getLast? with
  | some (.answered answer) => some answer
  | _ => none

/-- Handles one request from its arrival to its answer, if it gets one;
`decide` says what happens to the server while a forwarded request of the given
number waits. -/
def exchange (s : Server) (r : Http.Request) (decide : Nat → List Move) :
    Server × Option Http.Answer :=
  let waiting := (s.accept r).advanceNewest
  let number := s.requests.length
  let decided := if number < waiting.requests.length then waiting.run (decide number) else waiting
  let s := decided.advanceNewest
  (s, s.newestAnswer?)

end Server

end Control
end TerminalDialogs
