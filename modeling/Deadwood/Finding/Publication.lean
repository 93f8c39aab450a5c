import Deadwood.Finding.Basic

/-!
# Publications

What has to be told about the files of two successive finding tables so that a client that held
the first holds the second: a new list for every file of either, empty for files that only the
first one has.
-/

namespace Deadwood

/-- The list that replaces the findings of a file. Formalises `FileDiagnostics`. -/
structure Publication where
  file : Path
  findings : List Finding
deriving DecidableEq, Repr, Inhabited

namespace Publication

/-- What has to be shown for every file of two tables when the second takes the place of the
first: nothing for the files of the first, unless the second has findings for them. -/
def planTable (previous next : FindingTable) : FindingTable :=
  let cleared := previous.paths.foldl (fun m p => m.insert p []) (PathMap.empty : FindingTable)
  next.entries.foldl (fun m e => m.insert e.1 e.2) cleared

/-- The lists to publish when one table takes the place of another. Formalises
`publication_plan`. -/
def plan (previous next : FindingTable) : List Publication :=
  (planTable previous next).entries.map fun e => ⟨e.1, e.2⟩

end Publication

end Deadwood
