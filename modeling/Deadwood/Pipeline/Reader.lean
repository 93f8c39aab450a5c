import Deadwood.Pipeline.Snapshot

/-!
# Readers

A reader follows the current snapshot and remembers which generation it has seen. Looking at the
snapshot does not count as seeing it; being told of it does. Passes that come between two polls
are told once, as the latest of them.
-/

namespace Deadwood

/-- A reader of the current snapshot. Formalises `SnapshotReader`. -/
structure Reader where
  /-- The generation that was last seen. -/
  seen : Nat
deriving DecidableEq, Repr, Inhabited

/-- What a reader is told when it asks for news. -/
inductive Signal where
  /-- There is nothing new yet. -/
  | pending
  /-- There is nothing new and never will be. -/
  | closed
  /-- There is a new snapshot. -/
  | updated (generation : Nat)
deriving DecidableEq, Repr, Inhabited

namespace Reader

/-- A new reader has seen the current snapshot. A copy of a reader has seen what that one has. -/
def new (current : Snapshot) : Reader := ⟨current.generation⟩

/-- Asks for news; `live` says whether more passes can come. Formalises
`SnapshotReader::changed`. -/
def poll (r : Reader) (current : Snapshot) (live : Bool) : Reader × Signal :=
  if r.seen != current.generation then (⟨current.generation⟩, .updated current.generation)
  else (r, if live then .pending else .closed)

end Reader

end Deadwood
