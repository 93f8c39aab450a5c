import Deadwood.Document.Position
import Deadwood.Finding.Basic
import Deadwood.Json.Basic
import Deadwood.Lens

/-!
# What an editor is shown

Findings, lenses and hovers in the form that an editor receives. A finding covers its whole line:
from the first column to the start of the next line.
-/

namespace Deadwood.Editor

/-- The line counted from zero of a line counted from one; zero stays zero. -/
def zeroBased (line : UInt32) : UInt32 := if line == 0 then 0 else line - 1

/-- The range that covers a line counted from one. Formalises `line_range`. -/
def lineRange (line : UInt32) : Range :=
  ⟨⟨zeroBased line, 0⟩, ⟨zeroBased line + 1, 0⟩⟩

/-- The number that stands for a severity. -/
def severityCode : Severity → Nat
  | .warning => 2
  | .hint => 4

/-- A finding as an editor receives it. -/
structure Diagnostic where
  range : Range
  severity : Severity
  message : String
deriving DecidableEq, Repr, Inhabited

/-- The diagnostic about a finding. Formalises `to_lsp_diagnostic`. -/
def Diagnostic.ofFinding (f : Finding) : Diagnostic := ⟨lineRange f.line, f.severity, f.message⟩

/-- The place of a lens: the start of its line. -/
def lensRange (l : Lens) : Range := ⟨⟨zeroBased l.line, 0⟩, ⟨zeroBased l.line, 0⟩⟩

/-! ## As JSON -/

/-- A position as JSON. -/
def positionJson (p : Position) : Json :=
  .object [("line", Json.nat p.line.toNat), ("character", Json.nat p.character.toNat)]

/-- A range as JSON. -/
def rangeJson (r : Range) : Json :=
  .object [("start", positionJson r.start), ("end", positionJson r.stop)]

/-- A diagnostic as JSON. -/
def Diagnostic.toJson (d : Diagnostic) : Json :=
  .object [("range", rangeJson d.range), ("severity", Json.nat (severityCode d.severity)),
    ("source", .string "dcf"), ("message", .string d.message)]

/-- A lens as JSON; its command does nothing. Formalises `to_code_lens`. -/
def lensJson (l : Lens) : Json :=
  .object [("range", rangeJson (lensRange l)),
    ("command", .object [("title", .string l.title), ("command", .string "")])]

/-- A hover as JSON. Formalises `to_lsp_hover`. -/
def hoverJson (markdown : String) : Json :=
  .object [("contents", .object [("kind", .string "markdown"), ("value", .string markdown)])]

end Deadwood.Editor
