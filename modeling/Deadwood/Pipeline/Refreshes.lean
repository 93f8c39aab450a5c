import Deadwood.Pipeline.Calls
import Deadwood.Pipeline.Worker

/-!
# Refreshes on a clock

Calls to a pipeline on an exact clock: waiting calls are served one after another, oldest first,
each taking as long as its analysis.
-/

namespace Deadwood

/-- A pipeline with its calls on a clock. -/
structure Refreshes where
  calls : Calls
  time : Nat := 0
  /-- When analyses started, oldest first. -/
  starts : List Nat := []
  /-- The largest number of analyses that were in flight at once. -/
  peak : Nat := 0
deriving Inhabited

namespace Refreshes

/-- The pipeline that the calls are made to. -/
def pipeline (r : Refreshes) : Pipeline := r.calls.pipeline

/-- Lets something happen to the calls; nothing changes if it cannot happen. -/
def happen (r : Refreshes) (e : CallEvent) : Refreshes :=
  match r.calls.step? e with
  | some calls => { r with calls, peak := max r.peak calls.inFlight }
  | none => r

/-- Applies a report directly and gives the update. -/
def apply (r : Refreshes) (report : Report) : Refreshes × Update :=
  (r.happen (.apply report), (r.pipeline.apply report).2)

/-- Serves a call from its entry to its end. -/
def serve (worker : Worker) (r : Refreshes) (call : Nat) : Refreshes :=
  let a := worker r.starts.length
  let r := (r.happen (.enter call)).happen (.analyze call)
  let r := { r with starts := r.starts ++ [r.time], time := r.time + a.span }
  r.happen (.finish call a.outcome)

/-- Makes so many calls at once and serves them; gives their results in the order of the calls. -/
def refreshMany (worker : Worker) (r : Refreshes) (count : Nat) :
    Refreshes × List (Except Failure Update) :=
  let first := r.calls.calls.length
  let started := (List.range count).foldl (fun r _ => r.happen .start) r
  let served := (List.range count).foldl (fun r i => serve worker r (first + i)) started
  (served, (served.calls.calls.drop first).filterMap CallPhase.result?)

end Refreshes

end Deadwood
