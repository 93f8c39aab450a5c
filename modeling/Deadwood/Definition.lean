import Deadwood.Path.Map
import Deadwood.Report.Basic

/-!
# The index of definitions

Finds the function defined on a line of a file. Where a report names several functions on one
line, the last one counts.
-/

namespace Deadwood

/-- The functions of each file by their lines, each line at most once. Formalises `ResultIndex`. -/
structure DefinitionIndex where
  files : PathMap (List (UInt32 × FunctionRecord))
deriving Repr, Inhabited

namespace DefinitionIndex

/-- The index without definitions. -/
def empty : DefinitionIndex := ⟨.empty⟩

/-- Puts a value under a line, in the place of what is there. -/
def setLine {α : Type} (line : UInt32) (x : α) : List (UInt32 × α) → List (UInt32 × α)
  | [] => [(line, x)]
  | (l, y) :: rest => if l == line then (line, x) :: rest else (l, y) :: setLine line x rest

/-- Adds a definition. -/
def add (index : DefinitionIndex) (f : FunctionRecord) : DefinitionIndex :=
  ⟨index.files.alter f.file fun lines => setLine f.line f (lines.getD [])⟩

/-- Drops all definitions. -/
def clear (index : DefinitionIndex) : DefinitionIndex := { index with files := .empty }

/-- Drops all that an index holds and adds the functions of a report in order. Formalises
`rebuild`. -/
def rebuild (index : DefinitionIndex) (r : Report) : DefinitionIndex :=
  r.functions.foldl add index.clear

/-- The index of the functions of a report. Formalises `from_report`. -/
def ofReport (r : Report) : DefinitionIndex := empty.rebuild r

/-- The function defined on a line of a file. Formalises `lookup`. -/
def lookup (index : DefinitionIndex) (file : Path) (line : UInt32) : Option FunctionRecord := do
  let lines ← index.files.get? file
  lines.lookup line

/-- The number of lines with a definition. -/
def size (index : DefinitionIndex) : Nat := (index.files.entries.flatMap (·.2)).length

/-- Whether there is no definition. -/
def isEmpty (index : DefinitionIndex) : Bool := index.files.isEmpty

end DefinitionIndex

end Deadwood
