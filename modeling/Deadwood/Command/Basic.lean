import Deadwood.Settings.Basic

/-!
# Commands

What the program can be asked to do, and how the options of a command change the settings.
-/

namespace Deadwood

/-- The options about the analyzer. Formalises `AnalyzerArgs`. -/
structure AnalyzerOptions where
  /-- The place of the analyzer. -/
  analyzer : Option Path := none
  /-- The directory that candidates are taken from. -/
  installDir : Option Path := none
  /-- The program that runs the analyzer. -/
  runtime : Option String := none
  /-- Whether the analyzer is run itself. -/
  noRuntime : Bool := false
  /-- How many seconds the analyzer may take. -/
  timeout : Option UInt64 := none
  /-- Whether messages leave out the commented code. -/
  noSnippets : Bool := false
deriving DecidableEq, Repr, Inhabited

/-- What the program can be asked to do. Formalises `Commands`. -/
inductive Command where
  /-- Serve an editor. -/
  | lsp
  /-- Analyze a workspace once. -/
  | scan (workspace : Option Path) (json : Bool) (options : AnalyzerOptions)
  /-- Analyze a workspace after every change. -/
  | watch (workspace : Option Path) (debounceMs : Option UInt64) (options : AnalyzerOptions)
deriving DecidableEq, Repr, Inhabited

/-- The settings with the options put over them; paths are taken from the current directory.
Formalises `AnalyzerArgs::apply`. -/
def AnalyzerOptions.apply (o : AnalyzerOptions) (cwd : Path) (s : Settings) : Settings :=
  let a := s.analyzer
  { s with
    analyzer := { a with
      path := (o.analyzer.map (Path.absolute cwd)).or a.path
      installDir := (o.installDir.map (Path.absolute cwd)).or a.installDir
      runtime := if o.noRuntime then none else o.runtime.or a.runtime
      timeoutSecs := o.timeout.getD a.timeoutSecs }
    findings := if o.noSnippets then { s.findings with includeSnippet := false } else s.findings }

/-- The settings of a command. -/
def Command.settings (cwd : Path) : Command → Settings
  | .lsp => {}
  | .scan _ _ o => o.apply cwd {}
  | .watch _ debounce o =>
    let s := o.apply cwd {}
    { s with debounceMs := debounce.getD s.debounceMs }

/-- The workspace that a command names. -/
def Command.workspace? : Command → Option Path
  | .lsp => none
  | .scan w _ _ => w
  | .watch w _ _ => w

end Deadwood
