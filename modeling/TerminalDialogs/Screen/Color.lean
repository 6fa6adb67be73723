import TerminalDialogs.Text.Hex

/-!
# Colours

A colour is one of the terminal's sixteen names, an index into its palette of
256, or a triple of 8-bit components; `default` is the terminal's own colour.

The settings give colours as six hexadecimal digits, with or without a number
sign in front.  Nothing else is a colour: no short form, no blanks, no sign.
-/

namespace TerminalDialogs
namespace Screen

/-- A colour triple. -/
structure Rgb where
  red : UInt8
  green : UInt8
  blue : UInt8
  deriving DecidableEq, Repr

/-- The eight colours that every terminal has. -/
inductive Hue where
  | black | red | green | yellow | blue | magenta | cyan | white
  deriving DecidableEq, Repr

/-- The position of a hue in the terminal's table. -/
def Hue.index : Hue → Nat
  | .black => 0
  | .red => 1
  | .green => 2
  | .yellow => 3
  | .blue => 4
  | .magenta => 5
  | .cyan => 6
  | .white => 7

/-- What a cell can be coloured with. -/
inductive Color where
  /-- The terminal's own colour. -/
  | default
  /-- One of the eight colours, plain or bright. -/
  | named (hue : Hue) (bright : Bool)
  /-- A position in the palette of 256 colours. -/
  | indexed (n : UInt8)
  /-- A colour triple. -/
  | rgb (c : Rgb)
  deriving DecidableEq, Repr

/-- The colour that six hexadecimal digits give. -/
def hexDigits? : Text → Option Rgb
  | [a, b, c, d, e, f] => do
      pure ⟨← Hex.pair? a b, ← Hex.pair? c d, ← Hex.pair? e f⟩
  | _ => none

/-- The colour that a setting gives, with or without a number sign. -/
def Rgb.ofHex? (s : Text) : Option Rgb :=
  match s with
  | '#' :: digits => hexDigits? digits
  | digits => hexDigits? digits

end Screen
end TerminalDialogs
