import Deadwood.Analyzer.Invocation
import Deadwood.Command.Basic
import Deadwood.Finding.Render
import Deadwood.Pipeline.Basic

/-!
# One scan of a workspace

A scan makes one pass and prints what was found, as lines of text or as JSON.
-/

namespace Deadwood.Console

/-- What a program leaves behind when it ends. -/
structure Outcome where
  code : Nat := 0
  stdout : String := ""
  /-- What was logged, in order. -/
  log : List LogLine := []
  /-- The error that ended the program. -/
  error : Option String := none
deriving Inhabited

/-- All that is written to the error output, with a filter for the log. -/
def Outcome.stderr (o : Outcome) (filter : LogFilter) : String :=
  filter.render o.log ++ match o.error with
    | some message => s!"error: {message}\n"
    | none => ""

/-- The workspace that a path names: the place that it leads to, or the path itself if it leads
nowhere. Without a path it is the current directory. Formalises `workspace_or_cwd`. -/
def workspace (tree : FileTree) (path : Option Path) : Path :=
  tree.canonical (path.getD tree.cwdPath)

/-- The log line about a pass that failed. -/
def failureLine (p : Pipeline) (failure : Failure) : LogLine where
  level := .warn
  topic := "dcf_core::runtime::pipeline"
  message := s!"analysis of {p.root.text} failed, " ++
    s!"keeping generation {p.current.generation}: {failure.message}"

/-- A log line of a scan. -/
def scanLine (message : String) : LogLine := { level := .info, topic := "dcf_cli::scan", message }

/-- The log line that sums a report up. -/
def summaryLine (r : Report) : LogLine :=
  scanLine (s!"{r.functions.length} functions analyzed, {r.unused.length} unused, " ++
    s!"{r.comments.length} commented-out blocks")

/-- What is printed for a snapshot. -/
def printed (json : Bool) (s : Snapshot) : String :=
  if json then s.findings.renderJson ++ "\n" else s.findings.renderText

/-- Scans a workspace; `home` is the directory of this program. Formalises `scan::run`. -/
def scan (tree : FileTree) (home root : Path) (settings : Settings) (json : Bool) : Outcome :=
  let pipeline : Pipeline := { root, settings := settings.findings }
  let invocation := (Invoker.ofSettings home settings.analyzer).run tree root
  let log := scanLine s!"Analyzing {root.text}..." :: invocation.remarks
  match (pipeline.settle invocation.outcome).2 with
  | .error failure =>
    { code := 1, log := log ++ [failureLine pipeline failure], error := some failure.message }
  | .ok update =>
    let summary := if json then [] else [summaryLine update.snapshot.report]
    { stdout := printed json update.snapshot, log := log ++ summary }

end Deadwood.Console
