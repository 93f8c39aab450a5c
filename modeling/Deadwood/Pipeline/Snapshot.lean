import Deadwood.Definition
import Deadwood.Finding.Publication

/-!
# Snapshots

What is known after a pass: the report, and all that is derived from it. The parts of a snapshot
always belong to the same report, because `Snapshot.build` is the only way to make one but for the
empty snapshot before the first pass.
-/

namespace Deadwood

/-- What is known after a pass. Formalises `Snapshot`. -/
structure Snapshot where
  /-- How many passes have been applied. -/
  generation : Nat := 0
  report : Report := {}
  index : DefinitionIndex := .empty
  findings : FindingTable := .empty
deriving Inhabited

/-- The snapshot of a report. Formalises `Snapshot::build`. -/
def Snapshot.build (settings : FindingSettings) (generation : Nat) (report : Report) :
    Snapshot where
  generation := generation
  report := report
  index := .ofReport report
  findings := .ofReport settings report

/-- The news of a pass: the new snapshot, and what has to be shown anew. Formalises
`ReportUpdate`. -/
structure Update where
  snapshot : Snapshot
  publications : List Publication
deriving Inhabited

/-- The number of the pass that an update is about. -/
def Update.generation (u : Update) : Nat := u.snapshot.generation

end Deadwood
