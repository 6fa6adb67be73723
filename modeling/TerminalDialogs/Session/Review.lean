import TerminalDialogs.Key
import TerminalDialogs.Viewport

/-!
# Looking through the output

When the command has ended, keys scroll its output or end the session.
-/

namespace TerminalDialogs
namespace Session

/-- What a key does to a session whose command has ended. -/
inductive Review where
  /-- The session ends. -/
  | leave
  /-- The output is shown from another place. -/
  | show (viewport : Viewport)
  deriving DecidableEq, Repr

/-- What a key does to the output.  With Control held only the letter C has a
meaning. -/
def review (v : Viewport) (k : Key) : Review :=
  if k.ctrl then if k.code = .char 'c' then .leave else .show v
  else
    match k.code with
    | .char 'q' | .escape | .enter => .leave
    | .up | .char 'k' => .show (v.up 1)
    | .down | .char 'j' => .show (v.down 1)
    | .pageUp | .char 'b' => .show (v.up v.halfPage)
    | .pageDown | .char 'f' | .char ' ' => .show (v.down v.halfPage)
    | .home | .char 'g' => .show v.toTop
    | .endKey | .char 'G' => .show v.toBottom
    | _ => .show v

end Session
end TerminalDialogs
