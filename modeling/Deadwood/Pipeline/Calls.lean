import Deadwood.Pipeline.Basic

/-!
# Concurrent refreshes

Any number of callers may ask for a refresh at the same time. A call waits until it is given the
lock, then has the workspace analyzed, and gives the lock back when it ends, whether with a report,
with a failure, or because its caller no longer wants it. A report may also be applied directly at
any time, without the lock; such a call has its result at once.
-/

namespace Deadwood

/-- How far a call has come. -/
inductive CallPhase where
  | waiting
  /-- The call has the lock, but its analysis has not begun. -/
  | holding
  | analyzing
  | done (result : Except Failure Update)
  | dropped
deriving Inhabited

/-- A pipeline with the calls made to it, in the order in which they were made. -/
structure Calls where
  pipeline : Pipeline
  locked : Bool := false
  calls : List CallPhase := []
deriving Inhabited

/-- What can happen to a pipeline and its calls. -/
inductive CallEvent where
  /-- A new call is made. -/
  | start
  /-- A waiting call is given the lock. -/
  | enter (call : Nat)
  /-- A call that has the lock starts its analysis. -/
  | analyze (call : Nat)
  /-- The analysis of a call ends, and with it the call. -/
  | finish (call : Nat) (outcome : Except Failure Report)
  /-- The caller of a call no longer wants it. -/
  | drop (call : Nat)
  /-- A report is applied directly. -/
  | apply (report : Report)
deriving Inhabited

namespace CallPhase

/-- Whether a call has an analysis in flight. -/
def isAnalyzing : CallPhase → Bool
  | .analyzing => true
  | _ => false

/-- What a call gave. -/
def result? : CallPhase → Option (Except Failure Update)
  | .done result => some result
  | _ => none

end CallPhase

namespace Calls

/-- The number of analyses in flight. -/
def inFlight (s : Calls) : Nat := s.calls.countP (·.isAnalyzing)

/-- What an event makes of a state, if it can happen there. Formalises `Pipeline::refresh` between
its suspension points, and `Pipeline::apply`. -/
def step? (s : Calls) : CallEvent → Option Calls
  | .start => some { s with calls := s.calls ++ [.waiting] }
  | .enter i =>
    match s.calls[i]?, s.locked with
    | some .waiting, false => some { s with locked := true, calls := s.calls.set i .holding }
    | _, _ => none
  | .analyze i =>
    match s.calls[i]? with
    | some .holding => some { s with calls := s.calls.set i .analyzing }
    | _ => none
  | .finish i outcome =>
    match s.calls[i]? with
    | some .analyzing =>
      let (pipeline, result) := s.pipeline.settle outcome
      some { pipeline, locked := false, calls := s.calls.set i (.done result) }
    | _ => none
  | .drop i =>
    match s.calls[i]? with
    | some .waiting => some { s with calls := s.calls.set i .dropped }
    | some .holding | some .analyzing =>
      some { s with locked := false, calls := s.calls.set i .dropped }
    | _ => none
  | .apply report =>
    let (pipeline, update) := s.pipeline.apply report
    some { s with pipeline, calls := s.calls ++ [.done (.ok update)] }

/-- What a sequence of events makes of a state, if they can happen in this order. -/
def run? (s : Calls) : List CallEvent → Option Calls
  | [] => some s
  | e :: rest => (s.step? e).bind (·.run? rest)

end Calls

end Deadwood
