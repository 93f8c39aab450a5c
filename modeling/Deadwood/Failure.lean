import Deadwood.Duration
import Deadwood.Report.Flaw
import Deadwood.Text.Blank

/-!
# Failures of a pass

Why a pass over a workspace gave no report. A failure ends that pass only.
-/

namespace Deadwood

/-- What went wrong with the process of an analyzer. Formalises `ExecutionFailure`. -/
inductive Breakdown where
  /-- The process could not be started. -/
  | spawn (text : String)
  /-- The process could not be waited for. -/
  | wait (text : String)
  /-- The process was stopped because it took too long. -/
  | timedOut (limit : Duration)
  /-- The process ended without success, by itself or by a signal. -/
  | exit (code signal : Option Int)
deriving DecidableEq, Repr, Inhabited

/-- How messages name the way a process ended. Formalises `describe_exit`. -/
def Breakdown.describeExit : Option Int → Option Int → String
  | some code, _ => s!"status {code}"
  | none, some signal => s!"signal {signal}"
  | none, none => "unknown status"

/-- The wording of a breakdown. -/
def Breakdown.message : Breakdown → String
  | .spawn text => "could not spawn process: " ++ text
  | .wait text => "failed waiting for process: " ++ text
  | .timedOut limit => "timed out after " ++ limit.toText
  | .exit code signal => "exited with " ++ describeExit code signal

/-- Why a pass gave no report. Formalises `InvocationError`. -/
inductive Failure where
  /-- None of the probed paths is a file. -/
  | notFound (probed : List Path)
  /-- The process of the analyzer failed, having written `stderr` to its error output. -/
  | execution (reason : Breakdown) (stderr : String)
  /-- The analyzer wrote something that is no report. -/
  | malformed (flaw : Report.Flaw)
deriving Inhabited

namespace Failure

/-- The part of a message that shows the error output, if there is anything to show. Formalises
`stderr_suffix`. -/
def stderrSuffix (stderr : String) : String :=
  let shown := Text.trim stderr
  if shown.isEmpty then "" else "; stderr: " ++ shown

/-- The wording of a failure. -/
def message : Failure → String
  | .notFound probed =>
    let shown := ", ".intercalate (probed.map (·.text))
    s!"analyzer not found (probed: {shown})"
  | .execution reason stderr =>
    s!"analyzer execution failed: {reason.message}{stderrSuffix stderr}"
  | .malformed flaw => "malformed analyzer report: " ++ flaw.message

/-- Whether the analyzer was stopped because it took too long. Formalises `is_timeout`. -/
def isTimeout : Failure → Bool
  | .execution (.timedOut _) _ => true
  | _ => false

end Failure

end Deadwood
