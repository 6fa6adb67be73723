import TerminalDialogs.Text

/-!
# JSON values

Requests, answers, options and settings are JSON.  A number is a whole number
that fits 64 bits or a binary floating-point number, because the two are told
apart by every reader of options.  The members of an object are kept sorted by
key, each key once, so two objects with the same members are equal and are
written alike.
-/

namespace TerminalDialogs

/-- A JSON number. -/
inductive Json.Number where
  /-- A whole number from zero on. -/
  | natural (n : Nat)
  /-- A negative whole number, given by its magnitude. -/
  | negative (magnitude : Nat)
  /-- Any other number. -/
  | float (x : Float)

/-- A JSON value. -/
inductive Json where
  | null
  | bool (b : Bool)
  | number (n : Json.Number)
  | string (s : Text)
  | array (elements : List Json)
  | object (members : List (Text × Json))
  deriving Inhabited

namespace Json

/-- A whole number from zero on. -/
def ofNat (n : Nat) : Json := .number (.natural n)

/-- A whole number. -/
def ofInt : Int → Json
  | .ofNat n => .number (.natural n)
  | .negSucc n => .number (.negative (n + 1))

/-- Texts as a JSON array. -/
def ofTexts (texts : List Text) : Json := .array (texts.map Json.string)

/-- Whether a text comes before another, character by character. -/
def keyBefore : Text → Text → Bool
  | [], [] => false
  | [], _ :: _ => true
  | _ :: _, [] => false
  | a :: s, b :: t => if a = b then keyBefore s t else a < b

/-- Sets a member of a sorted list of members. -/
def setMember (key : Text) (value : Json) : List (Text × Json) → List (Text × Json)
  | [] => [(key, value)]
  | member :: members =>
      if member.1 = key then (key, value) :: members
      else if keyBefore key member.1 then (key, value) :: member :: members
      else member :: setMember key value members

/-- An object with the given members; of two members with one key, the last
counts. -/
def ofMembers (members : List (Text × Json)) : Json :=
  .object (members.foldl (fun sorted m => setMember m.1 m.2 sorted) [])

/-- The member of an object with the given key. -/
def member? (key : Text) : Json → Option Json
  | .object members => (members.find? fun m => m.1 == key).map Prod.snd
  | _ => none

/-- Whether the value is `null`. -/
def isNull : Json → Bool
  | .null => true
  | _ => false

end Json

end TerminalDialogs
