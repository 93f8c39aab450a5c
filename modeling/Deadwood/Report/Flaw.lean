import Deadwood.Report.Basic
import Deadwood.Json.Fault
import Deadwood.Json.Schema

/-!
# Flaws of reports

Why the output of an analyzer is no report.
-/

namespace Deadwood.Report

/-- What a line number belongs to. -/
inductive LineOwner where
  | function (name : String)
  | lastUse (name : String)
  | comment
deriving DecidableEq, Repr, Inhabited

/-- How messages name the owner of a line number. -/
def LineOwner.describe : LineOwner → String
  | .function name => s!"function `{name}`"
  | .lastUse name => s!"last use of `{name}`"
  | .comment => "commented code"

/-- Why the output of an analyzer is no report. -/
inductive Flaw where
  /-- The output is not JSON. -/
  | unreadable (cause : Json.Cause) (place : Json.Place)
  /-- The analyzer says itself that it failed. -/
  | reported (text : String)
  /-- The document does not have the form of a report. -/
  | shape (mismatch : Json.Mismatch)
  /-- A line number is zero. -/
  | zeroLine (owner : LineOwner) (file : Path)
  /-- Any other complaint, in its own words. -/
  | other (text : String)
deriving Inhabited

/-- The wording of a flaw. -/
def Flaw.message : Flaw → String
  | .unreadable cause place =>
    s!"invalid JSON: {cause.message} at line {place.line} column {place.column}"
  | .reported text => "analyzer reported an error: " ++ text
  | .shape mismatch => mismatch.message
  | .zeroLine owner file =>
    s!"{owner.describe} in {file.text} has line 0 (lines are 1-based)"
  | .other text => text

end Deadwood.Report
