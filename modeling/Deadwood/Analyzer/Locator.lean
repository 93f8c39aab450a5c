import Deadwood.Failure
import Deadwood.FileTree.Basic
import Deadwood.Settings.Basic

/-!
# Finding the analyzer

An analyzer is looked for at one explicit place, or at several candidates in order. Relative
places are taken from the directory in which the analyzer is installed.
-/

namespace Deadwood

/-- Where an analyzer is looked for. Formalises `AnalyzerLocator`. -/
structure Locator where
  explicit : Option Path := none
  installDir : Path
  candidates : List Path
deriving DecidableEq, Repr, Inhabited

namespace Locator

/-- Where settings say an analyzer is looked for; `home` is the directory of this program.
Formalises `AnalyzerLocator::from_config`. -/
def ofSettings (home : Path) (a : AnalyzerSettings) : Locator :=
  { explicit := a.path, installDir := a.baseDir home, candidates := a.candidates }

/-- The paths that are looked at, in order. Formalises `probe_paths`. -/
def probes (l : Locator) : List Path :=
  match l.explicit with
  | some p => [l.installDir.join p]
  | none => l.candidates.map l.installDir.join

/-- The first path looked at that is a file. Formalises `resolve`. -/
def resolve (l : Locator) (tree : FileTree) : Except Failure Path :=
  match l.probes.find? tree.isFile with
  | some p => .ok p
  | none => .error (.notFound l.probes)

end Locator

end Deadwood
