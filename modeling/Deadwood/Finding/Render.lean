import Deadwood.Finding.Basic
import Deadwood.Json.Writer

/-!
# Findings as text

The two forms in which a scan prints findings: one line for each, and JSON.
-/

namespace Deadwood

/-- A finding as JSON. -/
def Finding.toJson (f : Finding) : Json :=
  .object [("severity", .string f.severity.word), ("line", Json.nat f.line.toNat),
    ("message", .string f.message)]

namespace FindingTable

/-- The line about one finding. -/
def renderLine (file : Path) (f : Finding) : String :=
  s!"{file.text}:{f.line.toNat}: {f.severity.word}: {f.message}\n"

/-- The findings as text. Formalises `render_text`. -/
def renderText (t : FindingTable) : String :=
  String.join (t.entries.flatMap fun e => e.2.map (renderLine e.1))

/-- The findings as JSON, files in table order. -/
def toJson (t : FindingTable) : Json :=
  .object (t.entries.map fun e => (e.1.text, .array (e.2.map Finding.toJson)))

/-- The findings as indented JSON text. -/
def renderJson (t : FindingTable) : String := t.toJson.pretty

end FindingTable

end Deadwood
