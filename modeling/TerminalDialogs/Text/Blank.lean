import TerminalDialogs.Text.Range

/-!
# Blanks

The characters with the property `White_Space`, which separate words and are
trimmed from both ends of what is typed.
-/

namespace TerminalDialogs
namespace Text

/-- The characters with the property `White_Space`. -/
def blankRanges : List (Nat × Nat) :=
  [(0x9, 0xD), (0x20, 0x20), (0x85, 0x85), (0xA0, 0xA0), (0x1680, 0x1680), (0x2000, 0x200A),
    (0x2028, 0x2029), (0x202F, 0x202F), (0x205F, 0x205F), (0x3000, 0x3000)]

/-- Whether a character is blank. -/
def isBlank (c : Char) : Bool := inRanges blankRanges c

/-- The text without the blanks at its ends. -/
def trim (s : Text) : Text := trimBoth isBlank s

/-- The words of a text. -/
def blankWords (s : Text) : List Text := words isBlank s

end Text
end TerminalDialogs
