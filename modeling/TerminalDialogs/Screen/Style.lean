import TerminalDialogs.Screen.Color

/-!
# Styles and pens

A *pen* is what a cell is drawn with: two colours and a set of modifiers.  A
*style* is a change of pen: it sets a colour or leaves it alone, and adds and
removes modifiers.
-/

namespace TerminalDialogs
namespace Screen

/-- What text can be besides coloured. -/
inductive Modifier where
  | bold | dim | italic | underlined | slowBlink | rapidBlink | reversed | hidden | crossedOut
  deriving DecidableEq, Repr

namespace Modifier

/-- Every modifier, in the order of their codes. -/
def all : List Modifier :=
  [.bold, .dim, .italic, .underlined, .slowBlink, .rapidBlink, .reversed, .hidden, .crossedOut]

/-- The code that turns a modifier on. -/
def code : Modifier → Nat
  | .bold => 1
  | .dim => 2
  | .italic => 3
  | .underlined => 4
  | .slowBlink => 5
  | .rapidBlink => 6
  | .reversed => 7
  | .hidden => 8
  | .crossedOut => 9

theorem mem_all (m : Modifier) : m ∈ all := by cases m <;> simp [all]

end Modifier

/-- A set of modifiers, listed in the order of their codes. -/
structure Modifiers where
  list : List Modifier := []
  deriving DecidableEq, Repr

namespace Modifiers

/-- No modifier. -/
def none : Modifiers := {}

/-- The set of the modifiers that satisfy `p`. -/
def ofPredicate (p : Modifier → Bool) : Modifiers := ⟨Modifier.all.filter p⟩

/-- Whether a modifier belongs to the set. -/
def has (ms : Modifiers) (m : Modifier) : Bool := ms.list.contains m

/-- The set of one modifier. -/
def only (m : Modifier) : Modifiers := ofPredicate (· == m)

/-- The modifiers of either set. -/
def union (a b : Modifiers) : Modifiers := ofPredicate fun m => a.has m || b.has m

/-- The modifiers of the first set that are not in the second. -/
def without (a b : Modifiers) : Modifiers := ofPredicate fun m => a.has m && !b.has m

@[simp] theorem has_ofPredicate (p : Modifier → Bool) (m : Modifier) :
    (ofPredicate p).has m = p m := by
  cases h : p m <;> simp [has, ofPredicate, Modifier.mem_all, h]

@[simp] theorem has_none (m : Modifier) : none.has m = false := rfl

end Modifiers

/-- What a cell is drawn with. -/
structure Pen where
  foreground : Color := .default
  background : Color := .default
  modifiers : Modifiers := {}
  deriving DecidableEq, Repr

/-- A change of pen. -/
structure Style where
  foreground : Option Color := none
  background : Option Color := none
  add : Modifiers := {}
  remove : Modifiers := {}
  deriving DecidableEq, Repr

/-- A style that sets the foreground. -/
def Style.fg (c : Color) : Style := { foreground := some c }

/-- The style with one modifier more. -/
def Style.adding (s : Style) (m : Modifier) : Style :=
  { s with add := s.add.union (Modifiers.only m), remove := s.remove.without (Modifiers.only m) }

/-- The pen after a change. -/
def Pen.merge (pen : Pen) (s : Style) : Pen :=
  { foreground := s.foreground.getD pen.foreground
    background := s.background.getD pen.background
    modifiers := (pen.modifiers.union s.add).without s.remove }

/-- The pen that a style makes of the default one. -/
def Style.pen (s : Style) : Pen :=
  { foreground := s.foreground.getD .default
    background := s.background.getD .default
    modifiers := s.add.without s.remove }

end Screen
end TerminalDialogs
