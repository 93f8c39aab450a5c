import Deadwood.Pipeline.Basic
import Deadwood.Schedule.Trigger

/-!
# The scheduler

A scheduler owns a pipeline, takes requests from a queue and starts passes one at a time. This
module says what can happen in which state and what it leads to; it leaves open what happens when.

A scheduler that waits takes one request at a time, and starts a pass as soon as one is wanted at
once. After a pass it takes in all requests that are there, and those that come meanwhile, before
it looks whether a pass is wanted. The result of a pass is installed in the pipeline in one step,
then delivered; a cancellation that comes in between no longer touches it.
-/

namespace Deadwood

/-- What a scheduler is doing. -/
inductive Phase where
  | waiting
  /-- A pass is under way. -/
  | passing
  /-- The result of a pass is installed and being delivered. -/
  | delivering (result : Except Failure Update)
  /-- A pass is over and the requests that came meanwhile are being taken in. -/
  | draining
  | stopped
deriving Inhabited

/-- What a scheduler does that can be seen from outside. -/
inductive Deed where
  /-- A pass starts. -/
  | began
  /-- An update is delivered. -/
  | published (update : Update)
  /-- A failure is delivered. -/
  | failed (failure : Failure)
deriving Inhabited

/-- A scheduler at a time. -/
structure Scheduler where
  pipeline : Pipeline
  /-- How long it has to be quiet after a save. -/
  quiet : Nat
  time : Nat := 0
  /-- How many handles there are through which requests can come. -/
  handles : Nat := 1
  cancelled : Bool := false
  /-- The requests that have not been taken in, oldest first. -/
  queue : List Trigger := []
  pending : Pending := {}
  phase : Phase := .waiting
  /-- All deeds so far with their times, oldest first. -/
  history : List (Nat × Deed) := []
deriving Inhabited

/-- What can happen to a scheduler. -/
inductive ScheduleEvent where
  /-- Time passes. -/
  | elapse (span : Nat)
  /-- A request is sent. -/
  | send (trigger : Trigger)
  /-- A handle is copied. -/
  | share
  /-- A handle is given up. -/
  | release
  /-- The scheduler is asked to stop. -/
  | cancel
  /-- The oldest request is taken in. -/
  | receive
  /-- A pass starts because one was asked for at once. -/
  | begin
  /-- A pass starts because the quiet period is over. -/
  | expire
  /-- The pass gives a result. -/
  | settle (outcome : Except Failure Report)
  /-- The result is delivered. -/
  | deliver
  /-- All requests that came meanwhile have been taken in. -/
  | resume
  /-- The pass is given up. -/
  | abort
  /-- The scheduler stops. -/
  | stop
deriving Inhabited

/-- The deed of delivering a result. -/
def Deed.ofResult : Except Failure Update → Deed
  | .ok update => .published update
  | .error failure => .failed failure

namespace Scheduler

/-- Whether the scheduler waits with nothing that has to start at once. -/
def isIdle (s : Scheduler) : Bool :=
  match s.phase with
  | .waiting => !s.pending.immediate
  | _ => false

/-- Whether the scheduler takes in requests. -/
def isReceiving (s : Scheduler) : Bool :=
  match s.phase with
  | .waiting => !s.pending.immediate
  | .draining => true
  | _ => false

/-- Whether a pass is under way. -/
def isPassing (s : Scheduler) : Bool :=
  match s.phase with
  | .passing => true
  | _ => false

/-- Whether the scheduler has stopped. -/
def isStopped (s : Scheduler) : Bool :=
  match s.phase with
  | .stopped => true
  | _ => false

/-- Whether nothing can be asked any more. -/
def isDeserted (s : Scheduler) : Bool := s.handles == 0 && s.queue.isEmpty

/-- Whether the quiet period is over. -/
def isDue (s : Scheduler) : Bool :=
  match s.pending.deadline with
  | some d => d ≤ s.time
  | none => false

/-- Starts a pass, leaving the given requests. -/
def startPass (s : Scheduler) (rest : Pending) : Scheduler :=
  { s with pending := rest, phase := .passing, history := s.history ++ [(s.time, .began)] }

/-- Stops, forgetting all requests. -/
def halt (s : Scheduler) : Scheduler := { s with queue := [], phase := .stopped }

/-- What an event makes of a scheduler, if it can happen there. Formalises `trigger_loop` and
`run_pass` between their suspension points. -/
def step? (s : Scheduler) : ScheduleEvent → Option Scheduler
  | .elapse span => some { s with time := s.time + span }
  | .send t =>
    if s.handles == 0 then none
    else if s.isStopped then some s
    else some { s with queue := s.queue ++ [t] }
  | .share => if s.handles == 0 then none else some { s with handles := s.handles + 1 }
  | .release => if s.handles == 0 then none else some { s with handles := s.handles - 1 }
  | .cancel => some { s with cancelled := true }
  | .receive =>
    match s.queue with
    | t :: rest =>
      if s.isReceiving then
        some { s with queue := rest, pending := s.pending.absorb s.quiet s.time t }
      else none
    | [] => none
  | .begin =>
    match s.phase with
    | .waiting => if s.pending.immediate then some (s.startPass {}) else none
    | _ => none
  | .expire =>
    if s.isIdle && s.isDue then some (s.startPass { s.pending with deadline := none }) else none
  | .settle outcome =>
    if s.isPassing then
      let (pipeline, result) := s.pipeline.settle outcome
      some { s with pipeline, phase := .delivering result }
    else none
  | .deliver =>
    match s.phase with
    | .delivering result =>
      some { s with phase := .draining, history := s.history ++ [(s.time, .ofResult result)] }
    | _ => none
  | .resume =>
    match s.phase, s.queue with
    | .draining, [] => some { s with phase := .waiting }
    | _, _ => none
  | .abort => if s.isPassing && s.cancelled then some s.halt else none
  | .stop => if s.isIdle && (s.cancelled || s.isDeserted) then some s.halt else none

/-- What a sequence of events makes of a scheduler, if they can happen in this order. -/
def run? (s : Scheduler) : List ScheduleEvent → Option Scheduler
  | [] => some s
  | e :: rest => (s.step? e).bind (·.run? rest)

/-! ## Reading the history -/

/-- How many passes have started. -/
def beginCount (s : Scheduler) : Nat :=
  s.history.countP fun e => match e.2 with | .began => true | _ => false

/-- The updates that have been delivered. -/
def updates (s : Scheduler) : List Update :=
  s.history.filterMap fun e => match e.2 with | .published u => some u | _ => none

/-- The failures that have been delivered. -/
def failures (s : Scheduler) : List Failure :=
  s.history.filterMap fun e => match e.2 with | .failed f => some f | _ => none

/-- When passes have started. -/
def beginTimes (s : Scheduler) : List Nat :=
  s.history.filterMap fun e => match e.2 with | .began => some e.1 | _ => none

/-- The largest number of passes that were under way at once. -/
def peakCount (s : Scheduler) : Nat :=
  (s.history.foldl (fun (n, peak) e => match e.2 with
    | .began => (n + 1, max peak (n + 1))
    | _ => (n - 1, peak)) (0, 0)).2

end Scheduler

end Deadwood
