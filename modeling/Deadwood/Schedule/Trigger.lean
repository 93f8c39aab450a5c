/-!
# Triggers

A pass is asked for in two ways: a saved file asks for one after a quiet period that starts anew
with every save, and an explicit request asks for one at once. Times are in milliseconds.
-/

namespace Deadwood

/-- A request for a pass. Formalises `Trigger`. -/
inductive Trigger where
  | saved
  | now
deriving DecidableEq, Repr, Inhabited

/-- The requests that have been taken in and not yet met. Formalises `Pending`. -/
structure Pending where
  /-- When the quiet period of the last save ends. -/
  deadline : Option Nat := none
  /-- Whether a pass has to start at once. -/
  immediate : Bool := false
deriving DecidableEq, Repr, Inhabited

namespace Pending

/-- Takes in a request at a time. Formalises `Pending::absorb`. -/
def absorb (quiet time : Nat) (p : Pending) : Trigger → Pending
  | .saved => { p with deadline := some (time + quiet) }
  | .now => { p with immediate := true }

/-- Takes in requests one after another, all at the same time. -/
def absorbAll (quiet time : Nat) (p : Pending) (ts : List Trigger) : Pending :=
  ts.foldl (absorb quiet time) p

@[simp] theorem absorbAll_nil (quiet time : Nat) (p : Pending) :
    p.absorbAll quiet time [] = p := rfl

@[simp] theorem absorbAll_cons (quiet time : Nat) (p : Pending) (t : Trigger) (ts : List Trigger) :
    p.absorbAll quiet time (t :: ts) = (p.absorb quiet time t).absorbAll quiet time ts := rfl

/-- After taking in requests a pass starts at once iff that was so before or one asks for it. -/
theorem absorbAll_immediate (quiet time : Nat) (p : Pending) (ts : List Trigger) :
    (p.absorbAll quiet time ts).immediate = (p.immediate || ts.contains .now) := by
  induction ts generalizing p with
  | nil => simp
  | cons t ts ih => cases t <;> simp [ih, absorb]

/-- After taking in requests the deadline is a quiet period away iff a save is among them. -/
theorem absorbAll_deadline (quiet time : Nat) (p : Pending) (ts : List Trigger) :
    (p.absorbAll quiet time ts).deadline =
      if ts.contains .saved then some (time + quiet) else p.deadline := by
  induction ts generalizing p with
  | nil => simp
  | cons t ts ih => cases t <;> simp [ih, absorb]

end Pending

end Deadwood
