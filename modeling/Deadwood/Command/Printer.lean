import Deadwood.Command.Parser

/-!
# Writing a command line

The words of a command: its name, its options in the order of their declaration, and the workspace
behind two dashes.
-/

namespace Deadwood.Command

open Text.Utf8 (encode)

/-- The words of an option that takes a value. -/
def valueWord (name : String) : Option Argument → List Argument
  | some value => [encode ("--" ++ name ++ "=") ++ value]
  | none => []

/-- The words of an option that takes no value. -/
def flagWord (name : String) (given : Bool) : List Argument :=
  if given then [encode ("--" ++ name)] else []

/-- A number in decimal digits. -/
def numeral (n : UInt64) : Argument := encode (toString n.toNat)

/-- The words of the options about the analyzer. -/
def analyzerWords (o : AnalyzerOptions) : List Argument :=
  valueWord "analyzer" (o.analyzer.map (·.bytes)) ++
  valueWord "install-dir" (o.installDir.map (·.bytes)) ++
  valueWord "runtime" (o.runtime.map encode) ++
  flagWord "no-runtime" o.noRuntime ++
  valueWord "timeout" (o.timeout.map numeral) ++
  flagWord "no-snippets" o.noSnippets

/-- The name of a command. -/
def name : Command → String
  | .lsp => "lsp"
  | .scan _ _ _ => "scan"
  | .watch _ _ _ => "watch"

/-- The words of the options of a command. -/
def optionWords : Command → List Argument
  | .lsp => []
  | .scan _ json o => flagWord "json" json ++ analyzerWords o
  | .watch _ debounce o =>
    valueWord "debounce-ms" (debounce.map numeral) ++ analyzerWords o

/-- The words of a workspace. -/
def workspaceWords : Option Path → List Argument
  | some w => [encode "--", w.bytes]
  | none => []

/-- The command line of a command, with the words of its options in a given order. -/
def lineWith (c : Command) (options : List Argument) : List Argument :=
  encode c.name :: options ++ workspaceWords c.workspace?

/-- The command line of a command. -/
def line (c : Command) : List Argument := c.lineWith c.optionWords

end Deadwood.Command
