import Deadwood.Path.Map
import Deadwood.Report.Basic
import Deadwood.Settings.Basic
import Deadwood.Text.Blank

/-!
# Findings

What a report means for the files of a workspace: a warning for every function that is never
used, a hint for every piece of code that is commented out. The findings of one file are in
report order, functions before comments; files are in path order, each in the spelling that the
report used first.
-/

namespace Deadwood

/-- How serious a finding is. -/
inductive Severity where
  | warning
  | hint
deriving DecidableEq, Repr, Inhabited

/-- The word for a severity. -/
def Severity.word : Severity → String
  | .warning => "warning"
  | .hint => "hint"

/-- Something to show on one whole line, counted from one. Formalises `DiagnosticRecord`. -/
structure Finding where
  severity : Severity
  line : UInt32
  message : String
deriving DecidableEq, Repr, Inhabited

/-- The message about an unused function. -/
def unusedMessage : String := "Unused function"

/-- The message about commented code, without the code. -/
def commentedMessage : String := "Commented-out code"

/-- The finding about an unused function. -/
def FunctionRecord.finding (f : FunctionRecord) : Finding :=
  ⟨.warning, f.line, unusedMessage⟩

/-- The finding about commented code, which shows the code if that is wanted and there is any. -/
def CommentRecord.finding (settings : FindingSettings) (c : CommentRecord) : Finding :=
  let snippet := Text.trim c.content
  ⟨.hint, c.line,
    if settings.includeSnippet && !snippet.isEmpty then commentedMessage ++ ": " ++ snippet
    else commentedMessage⟩

/-- The findings of every file that has any. Formalises `DiagnosticSet`. -/
abbrev FindingTable := PathMap (List Finding)

namespace FindingTable

/-- The findings of a file, if it has any. -/
def findings? (t : FindingTable) (file : Path) : Option (List Finding) := t.get? file

/-- The number of findings. -/
def total (t : FindingTable) : Nat := (t.entries.flatMap (·.2)).length

/-- The findings of a report. Formalises `reconcile`. -/
def ofReport (settings : FindingSettings) (r : Report) : FindingTable :=
  let warned := r.unused.foldl (fun t f => t.push f.file f.finding) PathMap.empty
  r.comments.foldl (fun t c => t.push c.file (c.finding settings)) warned

/-- Whether two tables have the same findings for the same files, however the files are spelled. -/
def same (t u : FindingTable) : Bool :=
  t.entries.map (fun e => (e.1.components, e.2)) == u.entries.map (fun e => (e.1.components, e.2))

end FindingTable

end Deadwood
