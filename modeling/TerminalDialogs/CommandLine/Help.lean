import TerminalDialogs.CommandLine.Invocation

/-!
# Help

What the program says about itself.
-/

namespace TerminalDialogs
namespace CommandLine

/-- The name of the program. -/
def programName : String := "tuibridge"

/-- The version of the program. -/
def programVersion : String := "0.1.0"

/-- The line about the log file. -/
def logLine : String :=
  "      --log-file <FILE>  Write debug logs to this file (also TUIBRIDGE_LOG_FILE)"

/-- The line about help. -/
def helpLine : String := "  -h, --help             Print help"

/-- The lines of help on a topic. -/
def helpLines : Topic → List String
  | .program =>
      ["Modal TUI widgets over the live output of a running command",
        "",
        "Usage: " ++ programName ++ " [OPTIONS] <COMMAND>",
        "",
        "Commands:",
        "  run   Run a command with its output in a scrollback view",
        "  tui   Show a single widget and print its result as JSON",
        "  help  Print this message or the help of the given subcommand(s)",
        "",
        "Options:",
        logLine,
        helpLine,
        "  -V, --version          Print version"]
  | .run =>
      ["Run a command with its output in a scrollback view",
        "",
        "Usage: " ++ programName ++ " run [OPTIONS] -- <CMD>...",
        "",
        "Arguments:",
        "  <CMD>...  The command and its arguments",
        "",
        "Options:",
        logLine,
        "      --pipe             Use pipes instead of a pseudo-terminal",
        "      --no-echo          Do not echo typed characters (pipe mode)",
        "      --title <TITLE>    Header title [default: \"Running Command\"]",
        helpLine]
  | .tui =>
      ["Show a single widget and print its result as JSON",
        "",
        "Usage: " ++ programName ++ " tui [OPTIONS] <KIND>",
        "",
        "Arguments:",
        "  <KIND>  choose, confirm, input, filter, file, table, pager, spin, write",
        "",
        "Options:",
        logLine,
        "      --options <JSON>   Widget options as a JSON object",
        helpLine]
  | .help =>
      ["Print this message or the help of the given subcommand(s)",
        "",
        "Usage: " ++ programName ++ " help [COMMAND]...",
        "",
        "Arguments:",
        "  [COMMAND]...  Print help for the subcommand(s)"]

/-- The help on a topic. -/
def help (topic : Topic) : Text := (helpLines topic).flatMap fun line => line.toList ++ ['\n']

/-- The version of the program as text. -/
def version : Text := programName.toList ++ [' '] ++ programVersion.toList ++ ['\n']

/-- What is said about arguments that make no sense. -/
def usageError (m : Misuse) : Text :=
  "error: ".toList ++ m.message ++ "\n\nFor more information, try '--help'.\n".toList

end CommandLine
end TerminalDialogs
