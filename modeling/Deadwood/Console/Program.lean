import Deadwood.Command.Parser
import Deadwood.Console.Scan
import Deadwood.Watch.Session

/-!
# The program

What a command line does, for the commands that end by themselves.
-/

namespace Deadwood.Console

/-- The name and the version of the program. -/
def versionText : String := "dcf 0.1.0"

/-- How the program is used. -/
def usageText : String :=
  "Usage: dcf <COMMAND>\n\nCommands:\n  lsp    Serve an editor\n" ++
  "  scan   Analyze a workspace once\n  watch  Analyze a workspace after every change\n"

/-- What is left behind when a command line is no command. -/
def usageOutcome (e : UsageError) : Outcome where
  code := e.exitCode
  stdout := match e with
    | .help => usageText
    | .version => versionText ++ "\n"
    | _ => ""

/-- Runs a command line; `home` is the directory of this program. Serving an editor that says
nothing, or watching without a change, ends without a trace; a workspace that cannot be watched is
an error. Formalises `run`. -/
def run (tree : FileTree) (home : Path) (words : List String) : Outcome :=
  match Command.parse words with
  | .error e => usageOutcome e
  | .ok .lsp => {}
  | .ok (.scan path json options) =>
    scan tree home (workspace tree path) (options.apply tree.cwdPath {}) json
  | .ok (.watch path _ _) =>
    match Watch.refusal? tree (workspace tree path) with
    | some reason => { code := 1, error := some reason }
    | none => {}

end Deadwood.Console
