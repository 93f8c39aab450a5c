import Deadwood.Editor.Diagnostic
import Deadwood.Pipeline.Basic
import Deadwood.Url.FilePath

/-!
# Messages to the editor

What the editor is told without having asked. The diagnostics of a file replace those that were
sent for it before.
-/

namespace Deadwood.Editor

/-- How important a message to the user is. -/
inductive Importance where
  | warning
  | info
deriving DecidableEq, Repr, Inhabited

/-- The number that stands for an importance. -/
def Importance.code : Importance → Nat
  | .warning => 2
  | .info => 3

/-- A message to the editor. -/
inductive Message where
  /-- A message to the user. -/
  | log (importance : Importance) (text : String)
  /-- The diagnostics of a file. -/
  | publish (url : Url) (diagnostics : List Diagnostic)
deriving DecidableEq, Inhabited

namespace Message

/-- The message about what to show for a file, if the file has an address. -/
def ofPublication? (root : Path) (p : Publication) : Option Message :=
  (Path.publishUrl? root p.file).map fun url => .publish url (p.findings.map .ofFinding)

/-- The message that sums an update up. -/
def summary (u : Update) : Message :=
  let r := u.snapshot.report
  .log .info (s!"Dead code analysis #{u.generation}: {r.unused.length} unused functions, " ++
    s!"{r.comments.length} commented-out blocks")

/-- The messages about an update: each publication in order, then the summary. Formalises
`ClientSink::publish`. -/
def ofUpdate (root : Path) (u : Update) : List Message :=
  u.publications.filterMap (ofPublication? root) ++ [summary u]

/-- The message about a failure. Formalises `ClientSink::report_failure`. -/
def ofFailure (f : Failure) : Message :=
  .log .warning s!"Dead code analysis failed, keeping previous results: {f.message}"

/-- The name of a kind of message. -/
def method : Message → String
  | .log _ _ => "window/logMessage"
  | .publish _ _ => "textDocument/publishDiagnostics"

/-- The content of a message. -/
def params : Message → Json
  | .log importance text =>
    .object [("type", Json.nat importance.code), ("message", .string text)]
  | .publish url diagnostics =>
    .object [("uri", .string url.toText),
      ("diagnostics", .array (diagnostics.map Diagnostic.toJson))]

end Message

end Deadwood.Editor
