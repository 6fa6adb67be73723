import TerminalDialogs.Failure
import TerminalDialogs.Files.Disk
import TerminalDialogs.Json.Record
import TerminalDialogs.Modal.Palette

/-!
# Settings

The colours of dialogs can be set in a file.  The file is a JSON record in which
every field may be missing and no other field is allowed; without a file
everything has its default.
-/

namespace TerminalDialogs

/-- The colours of dialogs as they are written in the file. -/
structure Settings where
  background : Text := "#1a1a2e".toList
  border : Text := "#7C3AED".toList
  accent : Text := "#7C3AED".toList
  deriving DecidableEq, Repr

namespace Settings

/-- The record that settings are. -/
def shape : Json.RecordShape where
  name := "Settings".toList
  fields := [⟨"modal_background".toList, .string, false⟩, ⟨"modal_border".toList, .string, false⟩,
    ⟨"accent".toList, .string, false⟩]
  closed := true

/-- The text given to a field, or its default. -/
def textOf (given : Json.Given) (name : String) (default : Text) : Text :=
  match given.get? name.toList with
  | some (.string s) => s
  | _ => default

/-- Reads settings. -/
def parse (s : Text) : Except Json.RecordError Settings := do
  let given ← Json.parseRecord shape s
  let default : Settings := {}
  pure
    { background := textOf given "modal_background" default.background
      border := textOf given "modal_border" default.border
      accent := textOf given "accent" default.accent }

/-- Settings as text. -/
def render (s : Settings) : Text :=
  Json.prettyRecord [("modal_background".toList, s.background),
    ("modal_border".toList, s.border), ("accent".toList, s.accent)]

/-- A failure while something was being done with a file. -/
def failed (doing : String) (path reason : Text) : Failure :=
  (Failure.because reason).within (doing.toList ++ ": ".toList ++ path)

/-- Reads the settings in a file. -/
def load (d : Files.Disk) (path : Text) : Except Failure Settings :=
  let unread := failed "Failed to read config file" path
  if d.tree.isThere path then
    match d.read path with
    | .error problem => .error (unread problem.message)
    | .ok bytes =>
        match Utf8.decode? none bytes with
        | none => .error (unread "stream did not contain valid UTF-8".toList)
        | some text =>
            (parse text).mapError fun e => failed "Failed to parse config file" path e.message
  else .ok {}

/-- Writes settings to a file, making the directories above it. -/
def save (s : Settings) (d : Files.Disk) (path : Text) : Except Failure Files.Disk := do
  let above := (Path.parent? path).getD []
  let made ← (d.makeDirectories above).mapError fun problem =>
    failed "Failed to create config directory" above problem.message
  (made.write path (Utf8.encode s.render)).mapError fun problem =>
    failed "Failed to write config file" path problem.message

/-- The colours of dialogs. -/
def theme (s : Settings) : Except Text Modal.Theme :=
  Modal.Theme.ofHex s.background s.border s.accent

end Settings

end TerminalDialogs
