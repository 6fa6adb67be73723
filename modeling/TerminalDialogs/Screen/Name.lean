import TerminalDialogs.Screen.Style

/-!
# Names of colours and modifiers

The colours of a terminal and the modifiers of a pen have names.  The bright
colours are called light, except that bright black is dark gray, plain white is
gray, and bright white is white.
-/

namespace TerminalDialogs
namespace Screen

namespace Color

/-- The colours that have a name. -/
def names : List (String × Color) :=
  [("reset", .default), ("black", .named .black false), ("red", .named .red false),
    ("green", .named .green false), ("yellow", .named .yellow false),
    ("blue", .named .blue false), ("magenta", .named .magenta false),
    ("cyan", .named .cyan false), ("gray", .named .white false),
    ("darkgray", .named .black true), ("lightred", .named .red true),
    ("lightgreen", .named .green true), ("lightyellow", .named .yellow true),
    ("lightblue", .named .blue true), ("lightmagenta", .named .magenta true),
    ("lightcyan", .named .cyan true), ("white", .named .white true)]

/-- The colour of the given name. -/
def ofName? (name : Text) : Option Color :=
  (names.find? fun n => n.1.toList == name).map Prod.snd

/-- The name of a colour, if it has one. -/
def name? (c : Color) : Option Text := (names.find? fun n => n.2 == c).map fun n => n.1.toList

end Color

namespace Modifier

/-- The name of a modifier. -/
def name : Modifier → Text
  | .bold => "bold".toList
  | .dim => "dim".toList
  | .italic => "italic".toList
  | .underlined => "underlined".toList
  | .slowBlink => "slow_blink".toList
  | .rapidBlink => "rapid_blink".toList
  | .reversed => "reversed".toList
  | .hidden => "hidden".toList
  | .crossedOut => "crossed_out".toList

end Modifier

/-- The modifiers of the given names. -/
def Modifiers.ofNames (names : List Text) : Modifiers :=
  Modifiers.ofPredicate fun m => names.contains m.name

end Screen
end TerminalDialogs
