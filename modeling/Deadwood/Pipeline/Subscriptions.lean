import Deadwood.Pipeline.Basic
import Deadwood.Pipeline.Reader

/-!
# Subscriptions to new reports

A host that wants to know of new reports subscribes through a provider, and then asks for the next
report again and again. The snapshot is kept together with a version, which every applied report
raises. A call waits until there is a version that its reader has not seen, and then takes the
snapshot that is current; more reports may be applied between these two steps. A call that waits
may be given up, but not one that has noticed a new version, since it does not wait any more.
-/

namespace Deadwood

/-- How far the call of a subscription for the next report has come. -/
inductive AskPhase where
  /-- No call is in progress. -/
  | idle
  | waiting
  /-- The call has noticed a new version, but it has not taken the snapshot yet. -/
  | woken
deriving DecidableEq, Repr, Inhabited

/-- What can happen to the calls of a subscription. -/
inductive AskEvent where
  /-- A call is made. -/
  | ask
  /-- A waiting call notices a version that has not been seen. -/
  | wake
  /-- A call returns the generation of the current snapshot. -/
  | answer
  /-- The caller of a waiting call no longer wants it. -/
  | abandon
deriving DecidableEq, Repr, Inhabited

/-- A subscription with its own reader. -/
structure Subscription where
  reader : Reader
  phase : AskPhase := .idle
  /-- The generations that its calls have returned, oldest first. -/
  told : List Nat := []
deriving DecidableEq, Repr, Inhabited

/-- What an event makes of a subscription, if it can happen there. Both noticing a version and
taking the snapshot count as seeing the version that is current then. -/
def Subscription.step? (sub : Subscription) (version : Nat) (current : Snapshot) :
    AskEvent → Option Subscription
  | .ask =>
    match sub.phase with
    | .idle => some { sub with phase := .waiting }
    | _ => none
  | .wake =>
    match sub.phase, sub.reader.seen != version with
    | .waiting, true => some { sub with reader := ⟨version⟩, phase := .woken }
    | _, _ => none
  | .answer =>
    match sub.phase with
    | .woken => some ⟨⟨version⟩, .idle, sub.told ++ [current.generation]⟩
    | _ => none
  | .abandon =>
    match sub.phase with
    | .waiting => some { sub with phase := .idle }
    | _ => none

/-- A pipeline with the providers of its snapshots and the subscriptions made through them. -/
structure Broadcast where
  pipeline : Pipeline
  /-- How often the snapshot was replaced. -/
  version : Nat := 0
  /-- The readers of the providers, in the order in which these were made. -/
  providers : List Reader := []
  subscriptions : List Subscription := []
deriving Inhabited

/-- What can happen to a pipeline and those who follow it. -/
inductive BroadcastEvent where
  /-- A pass ends, with a report or in a failure. -/
  | settle (outcome : Except Failure Report)
  /-- A provider is made, with a new reader. -/
  | provide
  /-- A provider looks at the snapshot. -/
  | look (provider : Nat)
  /-- A subscription is made, with a copy of the reader of a provider. -/
  | subscribe (provider : Nat)
  /-- Something happens to the calls of a subscription. -/
  | call (subscription : Nat) (event : AskEvent)
deriving Inhabited

namespace Broadcast

/-- What an event makes of a state, if it can happen there. -/
def step? (s : Broadcast) : BroadcastEvent → Option Broadcast
  | .settle outcome =>
    let (pipeline, result) := s.pipeline.settle outcome
    some { s with pipeline, version := if result.isOk then s.version + 1 else s.version }
  | .provide => some { s with providers := s.providers ++ [⟨s.version⟩] }
  | .look i =>
    match s.providers[i]? with
    | some _ => some s
    | none => none
  | .subscribe i =>
    match s.providers[i]? with
    | some reader => some { s with subscriptions := s.subscriptions ++ [{ reader }] }
    | none => none
  | .call i e =>
    match s.subscriptions[i]? with
    | some sub =>
      match sub.step? s.version s.pipeline.current e with
      | some sub => some { s with subscriptions := s.subscriptions.set i sub }
      | none => none
    | none => none

/-- What a sequence of events makes of a state, if they can happen in this order. -/
def run? (s : Broadcast) : List BroadcastEvent → Option Broadcast
  | [] => some s
  | e :: rest => (s.step? e).bind (·.run? rest)

end Broadcast

end Deadwood
