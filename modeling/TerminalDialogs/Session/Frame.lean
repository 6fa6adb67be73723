import TerminalDialogs.Session.Outcome
import TerminalDialogs.Styled.Cut
import TerminalDialogs.Viewport

/-!
# The screen of a session

The output of the command stands between a title with a rule and a status line.
The title names the session and its command; the status line says whether the
command is still running, which keys have a meaning, and how far the output has
been scrolled.  Every line is as wide as the screen.
-/

namespace TerminalDialogs
namespace Session

open Modal Screen

/-- What a session is called. -/
structure Caption where
  title : Text := "Running Command".toList
  /-- Shown beside the title. -/
  command : Text := []
  deriving DecidableEq, Repr

/-- Rows above the output. -/
def headerRows : Nat := 2

/-- Rows below the output. -/
def footerRows : Nat := 1

/-- The rows for output on a screen with the given number of rows. -/
def outputRows (rows : Nat) : Nat := max (rows - (headerRows + footerRows)) 1

/-- The title line before it is fitted to the screen. -/
def Caption.line (c : Caption) : Text :=
  let p := Palette.standalone
  paint c.title ((Style.fg p.accent).adding .bold) ++
    (if c.command.isEmpty then [] else ' ' :: paint c.command (Style.fg p.secondary))

/-- The status line before it is fitted to the screen. -/
def statusLine (outcome : Option Outcome) (v : Viewport) : Text :=
  let p := Palette.standalone
  let dim := Style.fg p.dim
  let status :=
    match outcome with
    | none =>
        paint "Running...".toList (Style.fg p.warning) ++
          paint "  |  Ctrl+\\: force quit".toList dim
    | some o =>
        (if o.isSuccess then paint "Done".toList (Style.fg p.success)
          else paint "Failed".toList (Style.fg p.failure)) ++
          paint "  |  arrows: scroll  |  Enter/q: exit".toList dim
  let percent := Text.padLeft 3 (Text.ofNat v.progress.percent)
  status ++ paint ("  ".toList ++ percent ++ ['%']) dim

/-- The screen of a session. -/
def frame (c : Caption) (width : Nat) (outcome : Option Outcome) (v : Viewport) : Text :=
  let rule := paint (List.replicate width '-') (Style.fg Palette.standalone.rule)
  Text.unrows
    ([Styled.fit width c.line, rule] ++ v.visible.map (Styled.fit width) ++
      [Styled.fit width (statusLine outcome v)])

/-- What is shown before the size of the screen is known. -/
def waiting : Text := "Initializing...".toList

end Session
end TerminalDialogs
