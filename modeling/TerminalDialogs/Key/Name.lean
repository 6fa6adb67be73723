import TerminalDialogs.Key

/-!
# Names of keys

A key is named by its character or by a word, with the modifiers that are held
in front, each followed by a plus sign.
-/

namespace TerminalDialogs
namespace Key

/-- The keys that are named by a word. -/
def names : List (String × KeyCode) :=
  [("enter", .enter), ("esc", .escape), ("tab", .tab), ("backtab", .backTab),
    ("backspace", .backspace), ("delete", .delete), ("insert", .insert), ("up", .up),
    ("down", .down), ("left", .left), ("right", .right), ("home", .home), ("end", .endKey),
    ("pageup", .pageUp), ("pagedown", .pageDown), ("null", .null), ("capslock", .capsLock),
    ("f1", .function 1), ("f5", .function 5), ("f12", .function 12)]

/-- The key of the given name, without modifiers. -/
def ofBareName (name : Text) : Key :=
  match names.find? fun n => n.1.toList == name with
  | some n => { code := n.2 }
  | none => { code := .char (name.headD ' ') }

/-- Takes at most `n` modifiers off a name. -/
def ofNameWith : (n : Nat) → Text → Key
  | 0, name => ofBareName name
  | n + 1, name =>
      match Text.after? "ctrl+".toList name, Text.after? "alt+".toList name,
          Text.after? "shift+".toList name with
      | some rest, _, _ => { ofNameWith n rest with ctrl := true }
      | _, some rest, _ => { ofNameWith n rest with alt := true }
      | _, _, some rest => { ofNameWith n rest with shift := true }
      | _, _, _ => ofBareName name

/-- The key of the given name. -/
def ofName (name : Text) : Key := ofNameWith name.length name

end Key

end TerminalDialogs
