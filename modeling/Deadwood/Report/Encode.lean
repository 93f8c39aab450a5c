import Deadwood.Report.Basic
import Deadwood.Json.Writer

/-!
# Writing reports

A report as a JSON document. A last use is left out when there is none; the content of a comment
is always written. A path that is no text cannot be written, and neither can a report with one.
-/

namespace Deadwood

/-- A path as a JSON text. -/
def Path.toJson (p : Path) : Json := .string p.text

/-- Whether a path is what its text spells. -/
def Path.isText (p : Path) : Bool := .ofText p.text == p

/-- A line number as JSON. -/
def Json.word32 (n : UInt32) : Json := Json.nat n.toNat

/-- A usage site as JSON. -/
def UsageSite.toJson (u : UsageSite) : Json :=
  .object [("file", u.file.toJson), ("line", Json.word32 u.line)]

/-- A function as JSON. -/
def FunctionRecord.toJson (f : FunctionRecord) : Json :=
  .object ([("name", .string f.name), ("file", f.file.toJson), ("line", Json.word32 f.line),
    ("usage_count", Json.word32 f.usageCount)] ++
    (match f.lastUsed with
      | some u => [("last_used", u.toJson)]
      | none => []))

/-- A comment as JSON. -/
def CommentRecord.toJson (c : CommentRecord) : Json :=
  .object [("file", c.file.toJson), ("line", Json.word32 c.line), ("content", .string c.content)]

namespace Report

/-- A report as JSON. -/
def toJson (r : Report) : Json :=
  .object [("functions", .array (r.functions.map (·.toJson))),
    ("commented_code", .array (r.comments.map (·.toJson)))]

/-- The paths of a report, in the order in which they are written. -/
def paths (r : Report) : List Path :=
  r.functions.flatMap (fun f => f.file :: f.lastUsed.toList.map (·.file)) ++
    r.comments.map (·.file)

/-- A report as the bytes of a document, if all its paths are texts. -/
def encode? (r : Report) : Option (List UInt8) :=
  if r.paths.all (·.isText) then some r.toJson.toBytes else none

end Report

end Deadwood
