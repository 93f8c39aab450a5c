import Deadwood.Pipeline.Worker
import Deadwood.Schedule.Basic

/-!
# Timelines

A scheduler on an exact clock, with passes whose length and outcome are known. What the scheduler
does next and when is fixed: a pass that was asked for at once comes first, then a cancellation,
then the requests in the queue, then the end of the quiet period. The steps of a scheduler leave
open which of several things that are ready at one time comes first, and a timeline is one way to
settle it.
-/

namespace Deadwood

/-- A scheduler on a clock, with the end and the outcome of the pass under way. -/
structure Timeline where
  scheduler : Scheduler
  calls : Nat := 0
  due : Nat := 0
  outcome : Except Failure Report := .ok {}
deriving Inhabited

namespace Timeline

/-- What the scheduler does next if nothing comes from outside, and when. Formalises `trigger_loop`
and `run_pass`, which may take any of the branches that are ready at once: here it is the first. -/
def next? (t : Timeline) : Option (Nat × ScheduleEvent) :=
  let s := t.scheduler
  match s.phase with
  | .waiting =>
    if s.pending.immediate then some (s.time, .begin)
    else if s.cancelled then some (s.time, .stop)
    else if !s.queue.isEmpty then some (s.time, .receive)
    else if s.handles == 0 then some (s.time, .stop)
    else s.pending.deadline.map fun d => (max d s.time, .expire)
  | .passing =>
    if s.cancelled then some (s.time, .abort) else some (max t.due s.time, .settle t.outcome)
  | .delivering _ => some (s.time, .deliver)
  | .draining => some (s.time, if s.queue.isEmpty then .resume else .receive)
  | .stopped => none

/-- Moves the clock forward to a time. -/
def moveTo (t : Timeline) (time : Nat) : Timeline :=
  { t with scheduler := { t.scheduler with time := max time t.scheduler.time } }

/-- Lets something happen to the scheduler; nothing changes if it cannot happen. -/
def happen (t : Timeline) (e : ScheduleEvent) : Timeline :=
  match t.scheduler.step? e with
  | some s => { t with scheduler := s }
  | none => t

/-- Has the next analysis done when a pass has started. -/
def call (worker : Worker) (t : Timeline) : Timeline :=
  let a := worker t.calls
  { t with calls := t.calls + 1, due := t.scheduler.time + a.span, outcome := a.outcome }

/-- Does at a time what the scheduler does next. -/
def act (worker : Worker) (t : Timeline) (time : Nat) (e : ScheduleEvent) : Timeline :=
  let t := (t.moveTo time).happen e
  match e with
  | .begin | .expire => t.call worker
  | _ => t

/-- A bound on how much the scheduler can still do by itself. Every request makes for at most one
pass, and a pass is started, settled, delivered and left behind. -/
def work (s : Scheduler) : Nat :=
  5 * s.queue.length + (if s.pending.immediate then 4 else 0) +
    (if s.pending.deadline.isSome then 4 else 0) +
    match s.phase with
    | .waiting => 1
    | .passing => 4
    | .delivering _ => 3
    | .draining => 2
    | .stopped => 0

/-- Lets the scheduler do up to so many things, up to and including a time. -/
def advance (worker : Worker) (horizon : Nat) : Nat → Timeline → Timeline
  | 0, t => t
  | fuel + 1, t =>
    match t.next? with
    | some (time, e) =>
      if time ≤ horizon then advance worker horizon fuel (t.act worker time e) else t
    | none => t

/-- Lets so much time pass. -/
def sleep (worker : Worker) (span : Nat) (t : Timeline) : Timeline :=
  let horizon := t.scheduler.time + span
  (advance worker horizon (work t.scheduler) t).moveTo horizon

/-- Lets the scheduler do up to so many things, until it is done with a pass. -/
def awaitDelivery (worker : Worker) : Nat → Timeline → Timeline
  | 0, t => t
  | fuel + 1, t =>
    match t.next? with
    | some (time, .resume) => t.act worker time .resume
    | some (time, e) => awaitDelivery worker fuel (t.act worker time e)
    | none => t

/-- Lets time pass until a pass is over, or nothing more can happen. -/
def awaitPass (worker : Worker) (t : Timeline) : Timeline :=
  awaitDelivery worker (work t.scheduler) t

end Timeline

end Deadwood
