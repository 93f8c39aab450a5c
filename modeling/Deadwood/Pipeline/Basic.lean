import Deadwood.Failure
import Deadwood.Pipeline.Snapshot

/-!
# The pipeline

The current snapshot of one workspace. A pass that gives a report replaces the snapshot in one
step and says what changed; a pass that fails changes nothing.
-/

namespace Deadwood

/-- The state of one workspace. Formalises `Pipeline`. -/
structure Pipeline where
  root : Path
  settings : FindingSettings := {}
  current : Snapshot := {}
deriving Inhabited

namespace Pipeline

/-- Replaces the snapshot by the one of a new report. Formalises `Pipeline::apply`. -/
def apply (p : Pipeline) (report : Report) : Pipeline × Update :=
  let next := Snapshot.build p.settings (p.current.generation + 1) report
  ({ p with current := next }, ⟨next, Publication.plan p.current.findings next.findings⟩)

/-- Takes what a pass gave. -/
def settle (p : Pipeline) : Except Failure Report → Pipeline × Except Failure Update
  | .ok report => let (q, update) := p.apply report; (q, .ok update)
  | .error failure => (p, .error failure)

@[simp] theorem apply_root (p : Pipeline) (report : Report) :
    (p.apply report).1.root = p.root := rfl

@[simp] theorem apply_settings (p : Pipeline) (report : Report) :
    (p.apply report).1.settings = p.settings := rfl

@[simp] theorem apply_current (p : Pipeline) (report : Report) :
    (p.apply report).1.current =
      Snapshot.build p.settings (p.current.generation + 1) report := rfl

@[simp] theorem apply_snapshot (p : Pipeline) (report : Report) :
    (p.apply report).2.snapshot = (p.apply report).1.current := rfl

@[simp] theorem settle_error (p : Pipeline) (failure : Failure) :
    p.settle (.error failure) = (p, .error failure) := rfl

end Pipeline

end Deadwood
