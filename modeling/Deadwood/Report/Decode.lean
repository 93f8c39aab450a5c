import Deadwood.Report.Flaw
import Deadwood.Json.Reader
import Deadwood.Json.Writer

/-!
# Reading reports

The report in the bytes that an analyzer wrote. The document is read as JSON, checked for an
error the analyzer gives itself, read as a report, checked for line numbers that are zero, and
freed of last uses of functions that are not used.
-/

namespace Deadwood

open Json (Mismatch Decoder Members)

/-- A path, written as a text. -/
def Path.decoder : Decoder Path
  | .string s => .ok (.ofText s)
  | x => .error (.kind x "path string")

namespace UsageSite

/-- A usage site from the members of an object. -/
def ofMembers (ms : Members) : Except Mismatch UsageSite := do
  let file ← ms.read "file" Path.decoder
  let line ← ms.read "line" Json.word32Decoder
  return { file := ← Json.required "file" file, line := ← Json.required "line" line }

/-- A usage site from the list of its fields. -/
def ofFields (items : List Json) : Except Mismatch UsageSite := do
  let file ← Json.Fields.read "UsageSite" 2 items 0 Path.decoder
  let line ← Json.Fields.read "UsageSite" 2 items 1 Json.word32Decoder
  Json.Fields.noMore 2 items
  return { file, line }

/-- A usage site. -/
def decoder : Decoder UsageSite := Json.recordDecoder "UsageSite" ofMembers ofFields

end UsageSite

namespace FunctionRecord

/-- A function from the members of an object, which are looked at in the order of their names. -/
def ofMembers (ms : Members) : Except Mismatch FunctionRecord := do
  let file ← ms.read "file" Path.decoder
  let lastUsed ← ms.read "last_used" (Json.optionDecoder UsageSite.decoder)
  let line ← ms.read "line" Json.word32Decoder
  let name ← ms.read "name" Json.stringDecoder
  let usageCount ← ms.read "usage_count" Json.word32Decoder
  let name ← Json.required "name" name
  let file ← Json.required "file" file
  let line ← Json.required "line" line
  let usageCount ← Json.required "usage_count" usageCount
  return { name, file, line, usageCount, lastUsed := lastUsed.getD none }

/-- A function from the list of its fields. -/
def ofFields (items : List Json) : Except Mismatch FunctionRecord := do
  let name ← Json.Fields.read "FunctionRecord" 5 items 0 Json.stringDecoder
  let file ← Json.Fields.read "FunctionRecord" 5 items 1 Path.decoder
  let line ← Json.Fields.read "FunctionRecord" 5 items 2 Json.word32Decoder
  let usageCount ← Json.Fields.read "FunctionRecord" 5 items 3 Json.word32Decoder
  let lastUsed ← Json.Fields.readD items 4 (Json.optionDecoder UsageSite.decoder) none
  Json.Fields.noMore 5 items
  return { name, file, line, usageCount, lastUsed }

/-- A function. -/
def decoder : Decoder FunctionRecord := Json.recordDecoder "FunctionRecord" ofMembers ofFields

end FunctionRecord

namespace CommentRecord

/-- A comment from the members of an object, which are looked at in the order of their names. -/
def ofMembers (ms : Members) : Except Mismatch CommentRecord := do
  let content ← ms.read "content" Json.stringDecoder
  let file ← ms.read "file" Path.decoder
  let line ← ms.read "line" Json.word32Decoder
  let file ← Json.required "file" file
  let line ← Json.required "line" line
  return { file, line, content := content.getD "" }

/-- A comment from the list of its fields. -/
def ofFields (items : List Json) : Except Mismatch CommentRecord := do
  let file ← Json.Fields.read "CommentRecord" 3 items 0 Path.decoder
  let line ← Json.Fields.read "CommentRecord" 3 items 1 Json.word32Decoder
  let content ← Json.Fields.readD items 2 Json.stringDecoder ""
  Json.Fields.noMore 3 items
  return { file, line, content }

/-- A comment. -/
def decoder : Decoder CommentRecord := Json.recordDecoder "CommentRecord" ofMembers ofFields

end CommentRecord

namespace Report

/-! ## The form of a report -/

/-- The functions of a report. They may stand under an older name, but not under both. -/
def functionsOf (ms : Members) : Except Mismatch (List FunctionRecord) := do
  let functions ← ms.read "functions" (Json.listDecoder FunctionRecord.decoder)
  if functions.isSome && ms.has "unused_functions" then throw (.duplicate "functions")
  let older ← ms.read "unused_functions" (Json.listDecoder FunctionRecord.decoder)
  Json.required "functions" (functions <|> older)

/-- A report from the members of an object, which are looked at in the order of their names. -/
def ofMembers (ms : Members) : Except Mismatch Report := do
  let comments ← ms.read "commented_code" (Json.listDecoder CommentRecord.decoder)
  let functions ← functionsOf ms
  return { functions, comments := comments.getD [] }

/-- A report from the list of its fields. -/
def ofFields (items : List Json) : Except Mismatch Report := do
  let functions ←
    Json.Fields.read "AnalysisReport" 2 items 0 (Json.listDecoder FunctionRecord.decoder)
  let comments ← Json.Fields.readD items 1 (Json.listDecoder CommentRecord.decoder) []
  Json.Fields.noMore 2 items
  return { functions, comments }

/-- A report. -/
def decoder : Decoder Report := Json.recordDecoder "AnalysisReport" ofMembers ofFields

/-! ## Errors that the analyzer reports -/

/-- The complaint of an analyzer that answers with an error instead of a list of functions.
Formalises `reported_error`. -/
def reportedError? : Json → Option String
  | .object ms =>
    if Members.has ms "functions" || Members.has ms "unused_functions" then none
    else (Members.get? ms "error").map fun
      | .string s => s
      | x => x.compact
  | _ => none

/-! ## Line numbers -/

/-- The first line of a function that is zero, its own before that of its last use. -/
def functionFlaw? (f : FunctionRecord) : Option Flaw :=
  if f.line == 0 then some (.zeroLine (.function f.name) f.file)
  else match f.lastUsed with
    | some site => if site.line == 0 then some (.zeroLine (.lastUse f.name) site.file) else none
    | none => none

/-- The line of a comment, if it is zero. -/
def commentFlaw? (c : CommentRecord) : Option Flaw :=
  if c.line == 0 then some (.zeroLine .comment c.file) else none

/-- The first line number that is zero: functions come before comments. Formalises `validate`. -/
def lineFlaw? (r : Report) : Option Flaw :=
  (r.functions.findSome? functionFlaw?).or (r.comments.findSome? commentFlaw?)

/-! ## Last uses -/

/-- A function without the last use that contradicts its count of uses. -/
def dropStaleUse (f : FunctionRecord) : FunctionRecord :=
  if f.isUnused then { f with lastUsed := none } else f

/-- The functions that lose a last use. -/
def staleUses (r : Report) : List FunctionRecord :=
  r.functions.filter fun f => f.isUnused && f.lastUsed.isSome

/-- The report without last uses of functions that are not used. Formalises `normalize`. -/
def normalize (r : Report) : Report :=
  { r with functions := r.functions.map dropStaleUse }

/-! ## The whole reading -/

/-- The report in a document as it stands, with valid line numbers. -/
def decodeRaw (document : List UInt8) : Except Flaw Report :=
  match Json.read document with
  | .error fault => .error (.unreadable fault.cause (fault.place document))
  | .ok x =>
    match reportedError? x with
    | some text => .error (.reported text)
    | none =>
      match decoder x with
      | .error mismatch => .error (.shape mismatch)
      | .ok r =>
        match lineFlaw? r with
        | some flaw => .error flaw
        | none => .ok r

/-- The report in the bytes that an analyzer wrote. Formalises `decode_report`. -/
def decode (document : List UInt8) : Except Flaw Report :=
  (decodeRaw document).map normalize

end Report

end Deadwood
