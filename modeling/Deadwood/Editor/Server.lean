import Deadwood.Document.Word
import Deadwood.Editor.Method
import Deadwood.Editor.Params
import Deadwood.Editor.Session

/-!
# The server

How the server answers an editor. It starts without a session, is ready once the editor has
introduced itself, and answers nothing more after it has been told to shut down.
-/

namespace Deadwood.Editor

/-- How far the life of a server has come. -/
inductive Stage where
  | new
  | ready
  | shutDown
  | exited
deriving DecidableEq, Repr, Inhabited

/-- A server. Formalises `LspServer`. -/
structure Server where
  /-- The files that it can see. -/
  tree : FileTree
  /-- The directory of this program. -/
  home : Path
  stage : Stage := .new
  documents : DocumentStore := {}
  session? : Option Session := none
  /-- The messages that the editor has not taken, in order. -/
  outbox : List Message := []
  /-- How often the editor has been asked to fetch its lenses again. -/
  refreshes : Nat := 0
  /-- Whether the editor is yet to be asked because of a change. -/
  lensesStale : Bool := false
deriving Inhabited

/-- The answer to a request. -/
inductive Response where
  | result (value : Json)
  | refused (error : RpcError)
  /-- There is no answer. -/
  | silence
  /-- The server is gone. -/
  | exited
deriving Inhabited

namespace Server

/-- Adds a message to the editor. -/
def tell (s : Server) (m : Message) : Server := { s with outbox := s.outbox ++ [m] }

/-- Changes the session, if there is one. -/
def withSession (s : Server) (f : Session → Session) : Server :=
  { s with session? := s.session?.map f }

/-- Notes that the lenses of a session have changed, if the editor accepts to be told. -/
def markLenses (s : Server) (session : Session) : Server :=
  if session.refreshesLenses && !session.isCancelled then { s with lensesStale := true } else s

/-- Asks the editor to fetch its lenses again if they have changed since it was last asked; several
changes count once. -/
def refreshLenses (s : Server) : Server :=
  if s.lensesStale then { s with refreshes := s.refreshes + 1, lensesStale := false } else s

/-! ## Requests -/

/-- Answers a request whose contents have the wanted form, and refuses any other. -/
def reply {α : Type} (s : Server) (form : Json.Decoder α) (params : Json)
    (f : α → Server × Response) : Server × Response :=
  match Params.read form params with
  | .ok x => f x
  | .error reason => (s, .refused (.invalidParams reason))

/-- The editor introduces itself and names a workspace. Formalises `initialize`. -/
def introduce (s : Server) (i : Params.Introduction) : Server :=
  match i.workspace? with
  | some root =>
    { s with session? := some (Session.start s.home root i.settings
        (acceptsLensRefresh i.capabilities)) }
  | none => s

/-- Stops all work. A request with contents is refused, but there are no more answers after it
either. Formalises `shutdown`. -/
def shutdown (s : Server) : Json → Server × Response
  | .null => ({ s.withSession Session.cancel with stage := .shutDown }, .result .null)
  | params =>
    ({ s with stage := .shutDown },
      .refused (.invalidParams ("Unexpected params: " ++ params.compact)))

/-- The text of a document: as it is open in the editor, or else as it is on disk. -/
def text? (s : Server) (url : Url) (path : Path) : Option String :=
  (s.documents.text? url).or ((s.tree.data? path).bind Text.Utf8.decode?)

/-- The hover at a position of a document. Formalises `hover`. -/
def hover? (s : Server) (url : Url) (position : Position) : Option Json := do
  let session ← s.session?
  let path ← url.toPath?
  let text ← s.text? url path
  let word ← Document.wordAtUnits? position.line.toNat position.character.toNat text.toList
  (session.hover? path (position.line + 1) word).map hoverJson

/-- The lenses of a document. Formalises `code_lens`. -/
def lenses? (s : Server) (url : Url) : Option Json := do
  let session ← s.session?
  let path ← url.toPath?
  some (.array ((session.lenses path).map lensJson))

/-- Runs a command. Formalises `execute_command`. -/
def execute (s : Server) (command : String) : Server × Response :=
  if command == scanCommand then (s.withSession (·.send .now), .result .null)
  else (s, .refused (.invalidParams s!"unknown command: {command}"))

/-! ## Notifications -/

/-- The editor is ready; work starts. Formalises `initialized`. -/
def initialized (s : Server) : Server :=
  match s.session? with
  | some session =>
    (s.tell (.log .info s!"Dead code analysis started for {session.root.text}")).withSession
      (·.send .now)
  | none => s.tell (.log .warning "No workspace folder open; dead code analysis is disabled")

/-- Takes a notification whose contents have the wanted form; any other is not heeded. -/
def heed {α : Type} (s : Server) (form : Json.Decoder α) (params : Json) (f : α → Server) :
    Server :=
  match Params.read form params with
  | .ok x => f x
  | .error _ => s

/-- Takes a notification of a server that is ready. -/
def take (s : Server) (method : String) (params : Json) : Server :=
  match method with
  | "initialized" => s.heed Params.initialized params fun _ => s.initialized
  | "textDocument/didOpen" =>
    s.heed Params.opened params fun (url, text) =>
      { s with documents := s.documents.insert url text }
  | "textDocument/didChange" =>
    s.heed Params.changed params fun (url, changes) =>
      { s with documents := s.documents.change url changes }
  | "textDocument/didSave" => s.heed Params.saved params fun _ => s.withSession (·.send .saved)
  | "textDocument/didClose" =>
    s.heed Params.closed params fun url => { s with documents := s.documents.close url }
  | _ => s

/-! ## Dispatch -/

/-- Answers a request of a server that is ready. -/
def answer (s : Server) (method : String) (params : Json) : Server × Response :=
  match method with
  | "shutdown" => s.shutdown params
  | "textDocument/hover" =>
    s.reply Params.hover params fun (url, position) =>
      (s, .result ((s.hover? url position).getD .null))
  | "textDocument/codeLens" =>
    s.reply Params.lenses params fun url => (s, .result ((s.lenses? url).getD .null))
  | "workspace/executeCommand" => s.reply Params.command params s.execute
  | _ => (s, .refused .methodNotFound)

/-- Answers a request. A notification cannot be sent as a request, and of methods that need not be
known there is no answer. -/
def request (s : Server) (method : String) (params : Json) : Server × Response :=
  if s.stage == .exited then (s, .exited)
  else if method == "exit" then ({ s with stage := .exited }, .silence)
  else if method == cancelMethod then (s, .refused .invalidRequest)
  else if !isMethod method then
    (s, if isOptional method then .silence else .refused .methodNotFound)
  else if method == "initialize" then
    if s.stage == .new then
      s.reply Params.introduction params fun i =>
        ({ s.introduce i with stage := .ready }, .result greeting)
    else (s, .refused .invalidRequest)
  else match s.stage with
    | .new => (s, .refused .notInitialized)
    | .ready =>
      if notificationMethods.contains method then (s, .refused .invalidRequest)
      else s.answer method params
    | _ => (s, .refused .invalidRequest)

/-- Takes a notification; says whether the server is still there. A request that is sent as a
notification is not carried out, but being told to shut down ends the answers all the same. -/
def notify (s : Server) (method : String) (params : Json) : Server × Bool :=
  if s.stage == .exited then (s, false)
  else if method == "exit" then ({ s with stage := .exited }, true)
  else if s.stage != .ready then (s, true)
  else if method == "shutdown" then ({ s with stage := .shutDown }, true)
  else if notificationMethods.contains method then (s.take method params, true)
  else (s, true)

/-! ## Passes -/

/-- Lets time pass until a pass is over, and tells the editor about it. -/
def awaitPass (s : Server) : Server :=
  match s.session? with
  | none => s
  | some session =>
    let s := s.refreshLenses
    let invocation := session.analyze s.tree
    let before := session.scheduler.history.length
    let session :=
      { session with timeline := session.timeline.awaitPass (Session.worker invocation) }
    let deeds := (session.scheduler.history.drop before).map (·.2)
    let s := { s with
      session? := some session
      tree := if deeds.isEmpty then s.tree else invocation.tree
      outbox := s.outbox ++ (deeds.map (Session.deedMessages session.root)).flatten }
    if deeds.any (fun d => match d with | .published _ => true | _ => false) then
      s.markLenses session
    else s

/-- Takes all that has been sent to the editor. -/
def takeMessages (s : Server) : Server × List Message × Nat :=
  let s := s.refreshLenses
  ({ s with outbox := [], refreshes := 0 }, s.outbox, s.refreshes)

/-- Applies a report to the pipeline directly; the editor is not told what to show. -/
def apply (s : Server) (report : Report) : Server × Option Update :=
  match s.session? with
  | none => (s, none)
  | some session =>
    let (session, update) := session.apply report
    ({ s with session? := some session }.markLenses session, some update)

/-- Makes a pass over the workspace directly; the editor is not told what to show. -/
def refresh (s : Server) : Server × Option (Except Failure Update) :=
  match s.session? with
  | none => (s, none)
  | some session =>
    let invocation := session.analyze s.tree
    let s := { s.refreshLenses with tree := invocation.tree }
    match invocation.outcome with
    | .error failure => (s, some (.error failure))
    | .ok report => let (s, update) := s.apply report; (s, update.map .ok)

/-- Writes a file, or makes a directory. -/
def write (s : Server) (path : Path) (data : Option (List UInt8)) : Server :=
  { s with tree := s.tree.put path data }

end Server

end Deadwood.Editor
