import TerminalDialogs.Control.Server
import TerminalDialogs.Control.Url
import TerminalDialogs.Failure
import TerminalDialogs.Text.Blank

/-!
# The client of the control channel

A program that runs in a session finds the address and the token of the control
channel among its variables.  It asks for a widget with one request; the answer
is the result of the widget, the news that it was dismissed, or a failure.

The token and the address may be anything, so a request may fail before it is
sent.
-/

namespace TerminalDialogs
namespace Control

/-- The variable that holds the address of the control channel. -/
def addressVariable : Text := "TUIBRIDGE_TUI_ADDR".toList

/-- The variable that holds the token of the control channel. -/
def tokenVariable : Text := "TUIBRIDGE_TUI_TOKEN".toList

/-- A client. -/
structure Client where
  address : Text
  token : Text
  deriving DecidableEq, Repr

/-- Why a request does not get to the server. -/
inductive SendProblem where
  /-- There is no network. -/
  | noNetwork
  | refused
  deriving DecidableEq, Repr

/-- What is said about a request that does not get to the server. -/
def SendProblem.message : SendProblem → Text
  | .noNetwork => "Network is unreachable (os error 101)".toList
  | .refused => "Connection refused (os error 111)".toList

/-- What comes back for a request. -/
abbrev Delivery := Except SendProblem Http.Answer

namespace Client

/-- The client for an address, which may end in slashes. -/
def make (address token : Text) : Client :=
  { address := (address.reverse.dropWhile (· == '/')).reverse, token }

/-- The client for the variables that are set; both must be. -/
def ofVariables (address token : Option Text) : Option Client :=
  match address, token with
  | some (a :: address), some (t :: token) => some (make (a :: address) (t :: token))
  | _, _ => none

/-- The path behind which widgets are asked for. -/
def widgetPath : Text := "/tui".toList

/-- The header by which a client shows that it may ask. -/
def credentials (c : Client) : Text × Text := ("Authorization".toList, bearer c.token)

/-- The request by which a widget is asked for. -/
def ask (c : Client) (r : Request) : Http.Request where
  path := widgetPath
  headers := [("Content-Type".toList, "application/json".toList), c.credentials]
  body := Utf8.encode r.encode

/-- The request that looks whether the server is there. -/
def lookForServer : Http.Request where
  method := "GET".toList
  path := "/health".toList

/-- Whether the server is there. -/
def isThere : Delivery → Bool
  | .ok answer => answer.status == 200
  | .error _ => false

/-! ## Failures -/

/-- Why a request cannot be sent. -/
inductive Fault where
  /-- A header holds what no header may hold. -/
  | header (name value : Text)
  | address (problem : UrlProblem)
  /-- The address is not one of the web. -/
  | scheme (url : Url)
  | notSent (url : Url) (problem : SendProblem)
  deriving DecidableEq, Repr

/-- The greatest numbers of characters in a name of a host and in a label. -/
def nameLimits : Nat × Nat := (253, 63)

/-- Whether a name can be that of a host. -/
def isHostName (name : Text) : Bool :=
  let labels := Text.pieces '.' name
  let labels := if labels.getLast? = some [] then labels.dropLast else labels
  let isNameChar (c : Char) : Bool := c.isAlphanum || c == '-' || c == '_'
  name.length ≤ nameLimits.1 && name.head? != some '-' &&
    labels.all fun l => !l.isEmpty && l.length ≤ nameLimits.2 && l.all isNameChar

/-- The host itself. -/
def ownName : Text := "localhost".toList

/-- What is said about a host that is not reached, with a reason that is repeated
at the end. -/
def notReached (url : Url) (problem : SendProblem) : Text × Text :=
  let unconnected (reason : Text) : Text × Text :=
    ("Connection Failed: Connect error".toList, reason)
  match url.host, problem with
  | .domain name, .noNetwork =>
      if name = ownName then unconnected problem.message
      else
        let reason :=
          if isHostName name then "Temporary failure in name resolution"
          else "Name or service not known"
        let service := name ++ ':' :: Text.ofNat url.effectivePortNumber
        ("Dns Failed: resolve dns name '".toList ++ service ++ ['\''],
          "failed to lookup address information: ".toList ++ reason.toList)
  | .number6 _, .noNetwork => unconnected "Cannot assign requested address (os error 99)".toList
  | _, _ => unconnected problem.message

/-- What is said about a request that cannot be sent. -/
def Fault.message : Fault → Text
  | .header name value =>
      "Bad Header: invalid header '".toList ++ name ++ ": ".toList ++ value ++ ['\'']
  | .address problem =>
      "Bad URL: failed to parse URL: ".toList ++ problem.name ++ ": ".toList ++ problem.message ++
        ": ".toList ++ problem.message
  | .scheme url =>
      url.text ++ ": Unknown Scheme: unknown scheme '".toList ++ url.scheme ++ ['\'']
  | .notSent url problem =>
      let (what, reason) := notReached url problem
      Text.join ": ".toList [url.text, what, reason, reason]

/-- The failure of a request that cannot be sent. -/
def Fault.failure (f : Fault) : Failure :=
  (Failure.because f.message).within "Failed to send request".toList

/-- Whether a text can be the value of a header. -/
def isHeaderValue (s : Text) : Bool := s.all fun c => c == '\t' || (' ' ≤ c && c ≤ '~')

/-- The address to which the request for a widget goes. -/
def target (c : Client) : Except Fault Url :=
  if !isHeaderValue c.credentials.2 then .error (.header c.credentials.1 c.credentials.2)
  else
    match Url.read (c.address ++ widgetPath) with
    | .error problem => .error (.address problem)
    | .ok url =>
        if url.scheme = "http".toList || url.scheme = "https".toList then .ok url
        else .error (.scheme url)

/-- What comes back for a request for a widget, unless it cannot be sent. -/
def answerOf (c : Client) (d : Delivery) : Except Fault Http.Answer :=
  match c.target, d with
  | .error fault, _ => .error fault
  | .ok url, .error problem => .error (.notSent url problem)
  | .ok _, .ok answer => .ok answer

/-- Statuses from this one on are failures. -/
def failedStatus : Nat := 400

/-- The failure that an answer reports by its status. -/
def refusedBy (answer : Http.Answer) : Failure where
  cause := .control
    ("server error (".toList ++ Text.ofNat answer.status ++ "): ".toList ++
      (answer.body.reverse.dropWhile Text.isBlank).reverse)

/-- The reply that comes back for a request for a widget. -/
def replyOf (c : Client) (d : Delivery) : Except Failure Response :=
  match c.answerOf d with
  | .error fault => .error fault.failure
  | .ok answer =>
      if failedStatus ≤ answer.status then .error (refusedBy answer)
      else
        match Response.parse answer.body with
        | .error e =>
            .error ((Failure.because e.message).within "Failed to parse response".toList)
        | .ok r =>
            if r.error.isEmpty then .ok r
            else .error (.because ("TUI error: ".toList ++ r.error))

/-- The result that comes back for a request for a widget. -/
def resultOf (c : Client) (d : Delivery) : Except Failure Json := do
  let r ← c.replyOf d
  if r.cancelled then .error (.ofWidget .cancelled) else pure (r.result.getD .null)

end Client

end Control
end TerminalDialogs
