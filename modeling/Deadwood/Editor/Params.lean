import Deadwood.Document.Store
import Deadwood.Editor.Capabilities
import Deadwood.Settings.Json
import Deadwood.Url.FilePath
import Deadwood.Url.Parser

/-!
# What the editor sends

The contents of requests and notifications, read from JSON. The contents of a message have the form
of its method: fields that have to be there are there, and every field is of its kind, also one
whose value does not matter here. A message with other contents is refused.
-/

namespace Deadwood

open Json (Mismatch Decoder Members)

/-- An address, written as a text. -/
def Url.decoder : Decoder Url
  | .string s =>
    match Url.parse? s with
    | some url => .ok url
    | none => .error (.value (.string s) "a URL")
  | x => .error (.kind x "a string representing an URL")

namespace Editor.Params

variable {α β : Type}

/-! ## Records of one and of two fields -/

/-- A record of one field. -/
def single (record field : String) (item : Decoder α) : Decoder α :=
  Json.recordDecoder record
    (fun ms => do
      let x ← ms.read field item
      Json.required field x)
    (fun items => do
      let x ← Json.Fields.read record 1 items 0 item
      Json.Fields.noMore 1 items
      return x)

/-- The values under two names, looked at in the order of the names. -/
def both (ms : Members) (field field' : String) (item : Decoder α) (item' : Decoder β) :
    Except Mismatch (Option α × Option β) :=
  if field < field' then do
    let x ← ms.read field item
    let y ← ms.read field' item'
    return (x, y)
  else do
    let y ← ms.read field' item'
    let x ← ms.read field item
    return (x, y)

/-- A record of two fields. -/
def pair (record field field' : String) (item : Decoder α) (item' : Decoder β) : Decoder (α × β) :=
  Json.recordDecoder record
    (fun ms => do
      let (x, y) ← both ms field field' item item'
      let x ← Json.required field x
      let y ← Json.required field' y
      return (x, y))
    (fun items => do
      let x ← Json.Fields.read record 2 items 0 item
      let y ← Json.Fields.read record 2 items 1 item'
      Json.Fields.noMore 2 items
      return (x, y))

/-! ## Places -/

/-- A position. -/
def position : Decoder Position := fun x =>
  (pair "Position" "line" "character" Json.word32Decoder Json.word32Decoder x).map
    fun p => ⟨p.1, p.2⟩

/-- A range. -/
def range : Decoder Range := fun x =>
  (pair "Range" "start" "end" position position x).map fun r => ⟨r.1, r.2⟩

/-! ## Documents -/

/-- The name of a document. -/
def identifier : Decoder Url := single "TextDocumentIdentifier" "uri" Url.decoder

/-- The name of a document in one of its versions. -/
def versionedIdentifier : Decoder Url := fun x =>
  (pair "VersionedTextDocumentIdentifier" "uri" "version" Url.decoder Json.int32Decoder x).map
    Prod.fst

/-- A document with its text, from the members of an object. -/
def itemOfMembers (ms : Members) : Except Mismatch (Url × String) := do
  let languageId ← ms.read "languageId" Json.stringDecoder
  let text ← ms.read "text" Json.stringDecoder
  let url ← ms.read "uri" Url.decoder
  let version ← ms.read "version" Json.int32Decoder
  let url ← Json.required "uri" url
  let _ ← Json.required "languageId" languageId
  let _ ← Json.required "version" version
  let text ← Json.required "text" text
  return (url, text)

/-- A document with its text, from the list of its fields. -/
def itemOfFields (items : List Json) : Except Mismatch (Url × String) := do
  let url ← Json.Fields.read "TextDocumentItem" 4 items 0 Url.decoder
  let _ ← Json.Fields.read "TextDocumentItem" 4 items 1 Json.stringDecoder
  let _ ← Json.Fields.read "TextDocumentItem" 4 items 2 Json.int32Decoder
  let text ← Json.Fields.read "TextDocumentItem" 4 items 3 Json.stringDecoder
  Json.Fields.noMore 4 items
  return (url, text)

/-- A document with its text. -/
def item : Decoder (Url × String) :=
  Json.recordDecoder "TextDocumentItem" itemOfMembers itemOfFields

/-- A change of a document, from the members of an object. -/
def changeOfMembers (ms : Members) : Except Mismatch TextChange := do
  let range? ← ms.readOption "range" range
  let _ ← ms.readOption "rangeLength" Json.word32Decoder
  let text ← ms.read "text" Json.stringDecoder
  let text ← Json.required "text" text
  return ⟨range?, text⟩

/-- A change of a document, from the list of its fields. -/
def changeOfFields (items : List Json) : Except Mismatch TextChange := do
  let record := "TextDocumentContentChangeEvent"
  let range? ← Json.Fields.read record 3 items 0 (Json.optionDecoder range)
  let _ ← Json.Fields.read record 3 items 1 (Json.optionDecoder Json.word32Decoder)
  let text ← Json.Fields.read record 3 items 2 Json.stringDecoder
  Json.Fields.noMore 3 items
  return ⟨range?, text⟩

/-- A change of a document. -/
def change : Decoder TextChange :=
  Json.recordDecoder "TextDocumentContentChangeEvent" changeOfMembers changeOfFields

/-! ## Notifications -/

/-- The editor is ready. -/
def initialized : Decoder Unit :=
  Json.recordDecoder "InitializedParams" (fun _ => .ok ()) (Json.Fields.noMore 0)

/-- A document has been opened. -/
def opened : Decoder (Url × String) := single "DidOpenTextDocumentParams" "textDocument" item

/-- A document has been changed. -/
def changed : Decoder (Url × List TextChange) :=
  pair "DidChangeTextDocumentParams" "textDocument" "contentChanges" versionedIdentifier
    (Json.listDecoder change)

/-- A document has been saved, from the members of an object. -/
def savedOfMembers (ms : Members) : Except Mismatch Url := do
  let _ ← ms.readOption "text" Json.stringDecoder
  let url ← ms.read "textDocument" identifier
  Json.required "textDocument" url

/-- A document has been saved, from the list of its fields. -/
def savedOfFields (items : List Json) : Except Mismatch Url := do
  let record := "DidSaveTextDocumentParams"
  let url ← Json.Fields.read record 2 items 0 identifier
  let _ ← Json.Fields.read record 2 items 1 (Json.optionDecoder Json.stringDecoder)
  Json.Fields.noMore 2 items
  return url

/-- A document has been saved. -/
def saved : Decoder Url :=
  Json.recordDecoder "DidSaveTextDocumentParams" savedOfMembers savedOfFields

/-- A document has been closed. -/
def closed : Decoder Url := single "DidCloseTextDocumentParams" "textDocument" identifier

/-! ## Requests -/

/-- What an editor calls a piece of work: a number or a text. -/
def token : Decoder Unit
  | .string _ => .ok ()
  | x =>
    match Json.int32Decoder x with
    | .ok _ => .ok ()
    | .error _ => .error (.variant "NumberOrString")

/-- A position in a document. -/
def hover : Decoder (Url × Position) :=
  objectDecoder "HoverParams" fun ms => do
    let position ← ms.read "position" position
    let url ← ms.read "textDocument" identifier
    let url ← Json.required "textDocument" url
    let position ← Json.required "position" position
    let _ ← ms.readOption "workDoneToken" token
    return (url, position)

/-- A document whose lenses are wanted. -/
def lenses : Decoder Url :=
  objectDecoder "CodeLensParams" fun ms => do
    let url ← ms.read "textDocument" identifier
    let url ← Json.required "textDocument" url
    let _ ← ms.readOption "workDoneToken" token
    let _ ← ms.readOption "partialResultToken" token
    return url

/-- A command. -/
def command : Decoder String :=
  objectDecoder "ExecuteCommandParams" fun ms => do
    let _ ← ms.read "arguments" (Json.listDecoder fun x => .ok x)
    let command ← ms.read "command" Json.stringDecoder
    let command ← Json.required "command" command
    let _ ← ms.readOption "workDoneToken" token
    return command

/-! ## Introduction -/

/-- How an editor introduces itself. -/
structure Introduction where
  folders : List Url
  root? : Option Url
  options? : Option Json
  /-- What it can do, as it is written. -/
  capabilities : Json

/-- What an editor can do. It is kept as it is written. -/
def capabilities : Decoder Json := fun x => (clientCapabilities x).map fun _ => x

/-- A folder of the workspace. -/
def folder : Decoder Url := fun x =>
  (pair "WorkspaceFolder" "uri" "name" Url.decoder Json.stringDecoder x).map Prod.fst

/-- The program that the editor is, from the members of an object. -/
def clientOfMembers (ms : Members) : Except Mismatch Unit := do
  let name ← ms.read "name" Json.stringDecoder
  let _ ← ms.readOption "version" Json.stringDecoder
  let _ ← Json.required "name" name
  return ()

/-- The program that the editor is, from the list of its fields. -/
def clientOfFields (items : List Json) : Except Mismatch Unit := do
  let _ ← Json.Fields.read "ClientInfo" 2 items 0 Json.stringDecoder
  let _ ← Json.Fields.read "ClientInfo" 2 items 1 (Json.optionDecoder Json.stringDecoder)
  Json.Fields.noMore 2 items

/-- The program that the editor is. -/
def client : Decoder Unit := Json.recordDecoder "ClientInfo" clientOfMembers clientOfFields

/-- How much the editor wants to be told of the work. -/
def trace : Decoder Unit
  | .string s =>
    if ["off", "messages", "verbose"].contains s then .ok ()
    else .error (.unknown s "one of `off`, `messages`, `verbose`")
  | x => .error (.kind x "string or map")

/-- An introduction from the members of an object, looked at in the order of their names. -/
def introductionOfMembers (ms : Members) : Except Mismatch Introduction := do
  let capabilities ← ms.read "capabilities" capabilities
  let _ ← ms.readOption "clientInfo" client
  let options? ← ms.readOption "initializationOptions" fun x => .ok x
  let _ ← ms.readOption "locale" Json.stringDecoder
  let _ ← ms.readOption "processId" Json.word32Decoder
  let _ ← ms.readOption "rootPath" Json.stringDecoder
  let root? ← ms.readOption "rootUri" Url.decoder
  let _ ← ms.readOption "trace" trace
  let folders ← ms.readOption "workspaceFolders" (Json.listDecoder folder)
  let capabilities ← Json.required "capabilities" capabilities
  return { folders := folders.getD [], root?, options?, capabilities }

/-- An introduction from the list of its fields. -/
def introductionOfFields (items : List Json) : Except Mismatch Introduction := do
  let record := "InitializeParams"
  let _ ← Json.Fields.read record 9 items 0 (Json.optionDecoder Json.word32Decoder)
  let _ ← Json.Fields.read record 9 items 1 (Json.optionDecoder Json.stringDecoder)
  let root? ← Json.Fields.readD items 2 (Json.optionDecoder Url.decoder) none
  let options? ← Json.Fields.read record 9 items 3 (Json.optionDecoder fun x => .ok x)
  let capabilities ← Json.Fields.read record 9 items 4 capabilities
  let _ ← Json.Fields.readD items 5 (Json.optionDecoder trace) none
  let folders ← Json.Fields.readD items 6 (Json.optionDecoder (Json.listDecoder folder)) none
  let _ ← Json.Fields.read record 9 items 7 (Json.optionDecoder client)
  let _ ← Json.Fields.read record 9 items 8 (Json.optionDecoder Json.stringDecoder)
  Json.Fields.noMore 9 items
  return { folders := folders.getD [], root?, options?, capabilities }

/-- An introduction. -/
def introduction : Decoder Introduction :=
  Json.recordDecoder "InitializeParams" introductionOfMembers introductionOfFields

namespace Introduction

/-- The workspace that the editor names: the first folder if it is a path, else the root. Formalises
`workspace_root`. -/
def workspace? (i : Introduction) : Option Path :=
  (i.folders.head?.bind Url.toPath?).or (i.root?.bind Url.toPath?)

/-- The settings that the editor asks for; settings that cannot be read count for nothing. -/
def settings (i : Introduction) : Settings :=
  match Settings.ofOptions i.options? with
  | .ok s => s
  | .error _ => {}

end Introduction

/-! ## Contents of a message -/

/-- The contents of a message in the wanted form, or why they are refused. A message without
contents is as one with null. -/
def read (form : Decoder α) : Json → Except String α
  | .null => .error "Missing params field"
  | x => (form x).mapError Mismatch.message

end Editor.Params

end Deadwood
