import Deadwood.Duration
import Deadwood.Path.Basic

/-!
# Settings

How the analyzer is found and run, how long to wait after a change, and what findings show. Every
setting has a default.
-/

namespace Deadwood

/-- How the analyzer is found and run. Formalises `AnalyzerConfig`. -/
structure AnalyzerSettings where
  /-- The program that is given the analyzer to run; without one the analyzer is run itself. -/
  runtime : Option String := some "python"
  /-- The place of the analyzer, in place of looking through the candidates. -/
  path : Option Path := none
  /-- The directory that relative places are taken from. -/
  installDir : Option Path := none
  /-- The places where an analyzer is looked for, in order. -/
  candidates : List Path := ["cli.py", "analyzer/cli.py", "../analyzer/cli.py"].map Path.ofText
  /-- How many seconds the analyzer may take. -/
  timeoutSecs : UInt64 := 30
deriving DecidableEq, Repr, Inhabited

/-- What findings show. Formalises `DiagnosticsConfig`. -/
structure FindingSettings where
  /-- Whether the message about commented code shows the code. -/
  includeSnippet : Bool := true
deriving DecidableEq, Repr, Inhabited

/-- All settings. Formalises `DcfConfig`. -/
structure Settings where
  analyzer : AnalyzerSettings := {}
  /-- How many milliseconds have to pass after a change before a pass starts. -/
  debounceMs : UInt64 := 500
  findings : FindingSettings := {}
deriving DecidableEq, Repr, Inhabited

/-- How long to wait after a change. -/
def Settings.debounce (s : Settings) : Duration := .ofMillis s.debounceMs.toNat

namespace AnalyzerSettings

/-- How long the analyzer may take. -/
def timeout (a : AnalyzerSettings) : Duration := .ofSecs a.timeoutSecs.toNat

/-- Whether all settings are the default ones, however the candidates are spelled. -/
def isDefault (a : AnalyzerSettings) : Bool :=
  let candidates := fun (b : AnalyzerSettings) => b.candidates.map (·.components)
  { a with candidates := [] } == { ({} : AnalyzerSettings) with candidates := [] } &&
    candidates a == candidates {}

/-- The directory that relative places are taken from, by default the one of this program.
Formalises `resolved_install_dir`. -/
def baseDir (a : AnalyzerSettings) (home : Path) : Path := a.installDir.getD home

end AnalyzerSettings

/-- Whether all settings are the default ones, however the candidates are spelled. -/
def Settings.isDefault (s : Settings) : Bool :=
  s.analyzer.isDefault && { s with analyzer := {} } == ({} : Settings)

end Deadwood
