import TerminalDialogs.Control.Url.Host

/-!
# Addresses of resources

An address names a scheme, perhaps a user, a host with or without a number, a path,
and perhaps a query and a fragment.  It is brought into a normal form when it is
read: the scheme and the host in small letters, no number that the scheme implies,
no dots in the path, and all characters that mean nothing as percent signs with
two digits for each byte.

Some schemes are special: slashes in either direction mean the same for them, and
how many stand in front of the host does not matter.
-/

namespace TerminalDialogs
namespace Control

/-- An address with a host. -/
structure Url where
  scheme : Text
  /-- The user and perhaps a password. -/
  user : Text := []
  host : Host
  /-- The number behind the host, which tells the services of a host apart. -/
  portNumber : Option Nat := none
  path : Text := []
  query : Option Text := none
  fragment : Option Text := none
  deriving DecidableEq, Repr

namespace Url

/-! ## Schemes -/

/-- The special schemes with the numbers that they imply. -/
def specialSchemes : List (Text × Nat) :=
  [("http", 80), ("https", 443), ("ws", 80), ("wss", 443), ("ftp", 21)].map fun p =>
    (p.1.toList, p.2)

/-- The scheme of files. -/
def fileScheme : Text := "file".toList

/-- Whether a character can stand in a scheme. -/
def isSchemeChar (c : Char) : Bool := c.isAlphanum || c == '+' || c == '-' || c == '.'

/-- The scheme of a text and what follows its colon. -/
def scheme? (s : Text) : Option (Text × Text) :=
  match s.dropWhile isSchemeChar with
  | ':' :: rest =>
      if (s.head?.map Char.isAlpha).getD false then
        some ((s.takeWhile isSchemeChar).map Char.toLower, rest)
      else none
  | _ => none

/-! ## Escapes -/

/-- The characters that are escaped in a fragment, in a path, in a user, and in a
query. -/
def fragmentEscapes : Text := " \"<>\x60".toList

def pathEscapes : Text := fragmentEscapes ++ "#?\x7b\x7d".toList

def userEscapes : Text := pathEscapes ++ "/:;=@[\\]^|".toList

def queryEscapes : Text := " \"#<>".toList

/-- A text in which some characters, and all that are not plain, are escaped. -/
def escape (escaped : Text) (s : Text) : Text :=
  s.flatMap fun c =>
    if c.toNat < 0x20 || 0x7E < c.toNat || escaped.elem c then
      (Utf8.encodeChar c).flatMap fun b => '%' :: (Hex.encode [b]).map Char.toUpper
    else [c]

/-! ## Parts -/

/-- Whether a character ends the part with the host. -/
def endsAuthority (isSpecial : Bool) (c : Char) : Bool :=
  c == '/' || c == '?' || c == '#' || (isSpecial && c == '\\')

/-- The user in normal form. -/
def userText (s : Text) : Text :=
  match Text.splitAt? ':' s with
  | some (name, password) =>
      escape userEscapes name ++
        if password.isEmpty then [] else ':' :: escape userEscapes password
  | none => escape userEscapes s

/-- The text of a host, and what follows it, which is a number or nothing.  Colons in
brackets belong to the host. -/
def splitHost : (inBrackets : Bool) → Text → Text × Text
  | _, [] => ([], [])
  | inBrackets, c :: rest =>
      if c = ':' && !inBrackets then ([], c :: rest)
      else
        let (host, behind) := splitHost (c = '[' || (inBrackets && c != ']')) rest
        (c :: host, behind)

/-- The greatest number behind a host. -/
def greatestPortNumber : Nat := 65535

/-- The number that a text behind a host is, unless the scheme implies it. -/
def readPortNumber (scheme : Text) (s : Text) : Except UrlProblem (Option Nat) :=
  let digits := s.drop 1
  if !digits.all Char.isDigit then .error .badPortNumber
  else if greatestPortNumber < Host.value 10 digits then .error .badPortNumber
  else
    let n := Host.value 10 digits
    .ok (if digits.isEmpty || specialSchemes.lookup scheme = some n then none else some n)

/-- The host of an address whose scheme is not special. -/
def readOpaque (s : Text) : Except UrlProblem Host :=
  if s.head? = some '[' then Host.inBrackets s
  else if s.isEmpty then .error .emptyHost
  else if s.any (" #/:<>?@[\\]^|\x00".toList.elem ·) then .error .badCharacter
  else .ok (.domain (escape [] s))

/-- Whether a segment of a path means the directory itself. -/
def isDot (s : Text) : Bool := s == ['.'] || s.map Char.toLower == "%2e".toList

/-- Whether a segment of a path means the directory above. -/
def isDoubleDot (s : Text) : Bool :=
  ["..", "%2e.", ".%2e", "%2e%2e"].contains (String.ofList (s.map Char.toLower))

/-- Segments without dots, `seen` being those before, the last one first. -/
def withoutDots : (seen : List Text) → List Text → List Text
  | seen, [] => seen.reverse
  | seen, s :: rest =>
      let seen := if isDoubleDot s then seen.tail else seen
      if isDoubleDot s || isDot s then withoutDots (if rest.isEmpty then [] :: seen else seen) rest
      else withoutDots (s :: seen) rest

/-- The path in normal form. -/
def pathText (isSpecial : Bool) (s : Text) : Text :=
  if s.isEmpty && !isSpecial then []
  else
    let s := if isSpecial then s.map fun c => if c = '\\' then '/' else c else s
    let segments := Text.pieces '/' (if s.head? = some '/' then s.tail else s)
    '/' :: Text.join ['/'] (withoutDots [] (segments.map (escape pathEscapes)))

/-- An address with what follows its host. -/
def withRest (u : Url) (isSpecial : Bool) (s : Text) : Url :=
  let (front, fragment) :=
    match Text.splitAt? '#' s with
    | some (front, behind) => (front, some behind)
    | none => (s, none)
  let (path, query) :=
    match Text.splitAt? '?' front with
    | some (path, behind) => (path, some behind)
    | none => (front, none)
  { u with
    path := pathText isSpecial path
    query := query.map (escape (queryEscapes ++ if isSpecial then ['\''] else []))
    fragment := fragment.map (escape fragmentEscapes) }

/-- Reads an address behind its scheme and the slashes in front of its host. -/
def readAuthority (scheme : Text) (isSpecial : Bool) (s : Text) : Except UrlProblem Url := do
  let authority := s.takeWhile fun c => !endsAuthority isSpecial c
  let hostPart := (authority.reverse.takeWhile (· != '@')).reverse
  let userPart := authority.take (authority.length - hostPart.length - 1)
  let (hostText, portText) := splitHost false hostPart
  if isSpecial && hostText.isEmpty then .error .emptyHost
  else
    let host ← if isSpecial then Host.read hostText else readOpaque hostText
    let portNumber ← readPortNumber scheme portText
    let u : Url := { scheme, user := userText userPart, host, portNumber }
    return u.withRest isSpecial (s.drop authority.length)

/-- Whether a text is a letter for a drive, which is part of a path. -/
def isDrive (s : Text) : Bool :=
  match s with
  | [c, mark] => c.isAlpha && (mark == ':' || mark == '|')
  | _ => false

/-- Reads the address of a file on a host. -/
def readFile (s : Text) : Except UrlProblem Url := do
  let isSlash (c : Char) : Bool := c == '/' || c == '\\'
  match s with
  | a :: b :: rest =>
      let hostText := rest.takeWhile fun c => !endsAuthority true c
      if !isSlash a || !isSlash b || isDrive hostText || hostText.isEmpty then .error .emptyHost
      else
        let host ← Host.read hostText
        if host = .domain "localhost".toList then .error .emptyHost
        else
          let u : Url := { scheme := fileScheme, host }
          return u.withRest true (rest.drop hostText.length)
  | _ => .error .emptyHost

/-- Reads an address, which must name a host. -/
def read (s : Text) : Except UrlProblem Url :=
  let s := (Text.trimBoth (fun c => c.toNat ≤ 0x20) s).filter fun c => !"\t\n\r".toList.elem c
  match scheme? s with
  | none => .error .relative
  | some (scheme, rest) =>
      if scheme = fileScheme then readFile rest
      else if (specialSchemes.lookup scheme).isSome then
        readAuthority scheme true (rest.dropWhile fun c => c == '/' || c == '\\')
      else
        match rest with
        | '/' :: '/' :: rest => readAuthority scheme false rest
        | _ => .error .emptyHost

/-- An address as text. -/
def text (u : Url) : Text :=
  u.scheme ++ "://".toList ++ (if u.user.isEmpty then [] else u.user ++ ['@']) ++ u.host.text ++
    (match u.portNumber with
    | some n => ':' :: Text.ofNat n
    | none => []) ++
    u.path ++
    (match u.query with
    | some query => '?' :: query
    | none => []) ++
    match u.fragment with
    | some fragment => '#' :: fragment
    | none => []

/-- The number of the service that an address means. -/
def effectivePortNumber (u : Url) : Nat :=
  u.portNumber.getD ((specialSchemes.lookup u.scheme).getD 0)

end Url

end Control
end TerminalDialogs
