import Deadwood.Analyzer.Locator
import Deadwood.Host.Execution
import Deadwood.Log
import Deadwood.Report.Decode
import Deadwood.Utility.Installation

/-!
# Running the analyzer

An analyzer is started with the workspace as its argument and writes a report to its output. It
fails if it cannot be found or started, takes too long, ends without success, or writes something
that is no report.
-/

namespace Deadwood

open Host (Execution)

/-- How an analyzer is found and run. Formalises `AnalyzerInvoker`. -/
structure Invoker where
  locator : Locator
  runtime : Option String
  timeout : Duration
deriving DecidableEq, Repr, Inhabited

/-- What came of running an analyzer. -/
structure Invocation where
  outcome : Except Failure Report
  /-- How long it took. -/
  span : Duration := ⟨0⟩
  /-- What there is to say about it. -/
  remarks : List LogLine := []
  /-- The files afterwards. -/
  tree : FileTree
deriving Inhabited

namespace Invoker

/-- How settings say an analyzer is found and run. Formalises `AnalyzerInvoker::from_config`. -/
def ofSettings (home : Path) (a : AnalyzerSettings) : Invoker where
  locator := .ofSettings home a
  runtime := a.runtime
  timeout := a.timeout

/-- The words of the command that runs an analyzer on a workspace. -/
def commandLine (i : Invoker) (analyzer root : Path) : List (List UInt8) :=
  (i.runtime.map Text.Utf8.encode).toList ++ [analyzer.bytes, root.bytes]

/-- The outcome of a process. -/
def outcome (limit : Duration) (p : Execution) : Except Failure Report :=
  let stderr := Text.Utf8.decodeLossy p.stderr
  match p.ending with
  | some (.status 0) => (Report.decode p.stdout).mapError .malformed
  | some (.status code) => .error (.execution (.exit (some code) none) stderr)
  | some (.signal number) => .error (.execution (.exit none (some number)) stderr)
  | none => .error (.execution (.timedOut limit) stderr)

/-- The remark on a last use that is dropped because the function is not used. -/
def staleRemark (f : FunctionRecord) : LogLine where
  level := .debug
  topic := "dcf_core::model::report"
  message := s!"dropping last_used on unused function {f.name} ({f.file.text}:{f.line.toNat})"

/-- The remark on an analyzer that took too long. -/
def timeoutRemark (limit : Duration) (stderr : String) : LogLine where
  level := .warn
  topic := "dcf_core::runtime::invoker"
  message := s!"analyzer timed out after {limit.toText}; stderr so far: {Text.trim stderr}"

/-- The remark on an analyzer that is about to be started. -/
def startRemark (i : Invoker) (analyzer root : Path) : LogLine where
  level := .debug
  topic := "dcf_core::runtime::invoker"
  message := "spawning analyzer"
  details :=
    let runtime := match i.runtime with
      | some runtime => "Some(" ++ Text.Quoted.quote runtime ++ ")"
      | none => "None"
    [("analyzer", analyzer.text), ("runtime", runtime), ("root", root.text)]

/-- The remark on what a successful analyzer wrote to its error output. -/
def stderrRemark (stderr : String) : LogLine where
  level := .debug
  topic := "dcf_core::runtime::invoker"
  message := s!"analyzer stderr: {Text.trim stderr}"

/-- What there is to say about a process that ended with success. -/
def successRemarks (p : Execution) : List LogLine :=
  let stderr := Text.Utf8.decodeLossy p.stderr
  let stale := match Report.decodeRaw p.stdout with
    | .ok r => r.staleUses.map staleRemark
    | .error _ => []
  if (Text.trim stderr).isEmpty then stale else stderrRemark stderr :: stale

/-- What there is to say about a process and its outcome. -/
def remarks (p : Execution) : Except Failure Report → List LogLine
  | .error (.execution (.timedOut limit) stderr) => [timeoutRemark limit stderr]
  | .error (.execution _ _) => []
  | _ => successRemarks p

/-- Runs the analyzer on a workspace. Formalises `AnalyzerInvoker::run`. -/
def run (i : Invoker) (tree : FileTree) (root : Path) : Invocation :=
  match i.locator.resolve tree with
  | .error failure => { outcome := .error failure, tree }
  | .ok analyzer =>
    let start := i.startRemark analyzer root
    match Execution.run Utility.programNamed? tree i.timeout (i.commandLine analyzer root) with
    | .error e => { outcome := .error (.execution (.spawn e.message) ""), remarks := [start], tree }
    | .ok p =>
      let outcome := outcome i.timeout p
      { outcome
        remarks := start :: remarks p outcome
        span := p.span
        tree := p.tree }

end Invoker

end Deadwood
