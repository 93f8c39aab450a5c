import Deadwood.Path.Basic

/-!
# Which changes matter

Changes below directories of version control, caches, installed packages and build output never
start a pass. Only names below the watched root count.
-/

namespace Deadwood.Watch

/-- The names of directories below which changes do not matter. -/
def ignoredNames : List String :=
  [".git", ".dcf", "__pycache__", "venv", ".venv", "node_modules", "target"]

/-- Whether a component is an ignored name. -/
def isIgnored : Path.Component → Bool
  | .name s => (ignoredNames.map Text.Utf8.encode).contains s
  | _ => false

/-- Whether a change of a path matters to a watched root. Formalises `is_relevant_path`. -/
def isRelevant (root path : Path) : Bool :=
  !(((Path.stripBase? root path).getD path).components.any isIgnored)

end Deadwood.Watch
