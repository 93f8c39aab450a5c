import Deadwood.Console.Program
import Deadwood.Editor.Server
import Deadwood.Json.Reader
import Deadwood.Json.Writer
import Deadwood.Watch.Session

/-!
# The command line

The outer layer: it reads files and streams, calls the library and prints what the library says.
Analyzers are scripts that are run by the library itself.
-/

namespace Deadwood.Main

/-- Adds a file as it is on disk; one that cannot be read is left out. -/
def loadFile (tree : FileTree) (path : Path) : IO FileTree := do
  try
    let content ← IO.FS.readBinFile path.text
    return tree.writeFile path content.toList
  catch _ => return tree

/-- Adds the files at which an analyzer may be found. -/
def loadAnalyzers (tree : FileTree) (home : Path) (settings : AnalyzerSettings) : IO FileTree :=
  (Locator.ofSettings home settings).probes.foldlM loadFile tree

/-- The current directory, without files. -/
def currentTree : IO FileTree := do
  return FileTree.atDirectory (.ofText (← IO.currentDir).toString)

/-- The directory of this program. -/
def programDir : IO Path := do
  return .ofText (← IO.appDir).toString

/-- What is shown of the log. -/
def logFilter : IO LogFilter := do
  return LogFilter.ofVariables (← IO.getEnv "DCF_LOG") (← IO.getEnv "RUST_LOG")

/-- Prints what a command leaves behind. -/
def report (o : Console.Outcome) : IO UInt32 := do
  IO.eprint (o.stderr (← logFilter))
  IO.print o.stdout
  return UInt32.ofNat o.code

/-- Makes the first pass of a watch and prints what it says. -/
def watch (tree : FileTree) (home : Path) (command : Command) : IO UInt32 := do
  let settings := command.settings tree.cwdPath
  let root := Console.workspace tree command.workspace?
  let (session, lines) := (Watch.Session.start tree home root settings (← logFilter)).nextPass
  for line in lines ++ session.stop do
    IO.eprintln line
  return UInt32.ofNat session.exitCode

/-! ## Serving an editor -/

/-- Reads the lines before a message up to the empty one; gives the length of the message. -/
partial def readHeader (input : IO.FS.Stream) (size : Option Nat) : IO (Option Nat) := do
  let line ← input.getLine
  if line.isEmpty then return none
  let text := Text.trim line
  if text.isEmpty then return size
  match text.splitOn ":" with
  | [name, value] =>
    if name.toLower == "content-length" then readHeader input (Text.trim value).toNat?
    else readHeader input size
  | _ => readHeader input size

/-- Reads so many bytes. -/
partial def readBytes (input : IO.FS.Stream) (done : List UInt8) (count : Nat) :
    IO (List UInt8) := do
  if count == 0 then return done
  let bytes ← input.read count.toUSize
  if bytes.isEmpty then return done
  readBytes input (done ++ bytes.toList) (count - bytes.size)

/-- Writes a message. -/
def writeMessage (output : IO.FS.Stream) (members : List (String × Json)) : IO Unit := do
  let text := (Json.object (("jsonrpc", .string "2.0") :: members)).compact
  output.putStr s!"Content-Length: {text.utf8ByteSize}\r\n\r\n{text}"
  output.flush

/-- The rest of the message that answers a request. -/
def answerMembers : Editor.Response → List (String × Json)
  | .result value => [("result", value)]
  | .refused e =>
    [("error", .object [("code", .number (.whole e.code)), ("message", .string e.message)])]
  | _ => [("result", .null)]

/-- Makes the passes that are due and sends all messages. -/
def settle (output : IO.FS.Stream) (server : Editor.Server) : IO Editor.Server := do
  let waiting := server.session?.any fun s => s.timeline.next?.isSome
  let server ← match waiting, server.session? with
    | true, some session =>
      let tree ← loadAnalyzers server.tree server.home session.settings.analyzer
      pure { server with tree }.awaitPass
    | _, _ => pure server
  let (server, messages, _) := server.takeMessages
  for m in messages do
    writeMessage output [("method", .string m.method), ("params", m.params)]
  return server

/-- The file of the document that a message is about. -/
def documentPath? (params : Json) : Option Path := do
  let document ← Editor.member? "textDocument" params
  let address ← Editor.member? "uri" document
  let text ← address.asString?
  let url ← Url.parse? text
  url.toPath?

/-- Handles one message. -/
def handle (output : IO.FS.Stream) (server : Editor.Server) (message : Json) :
    IO Editor.Server := do
  let params := (Editor.member? "params" message).getD .null
  let tree ← (documentPath? params).elim (pure server.tree) (loadFile server.tree)
  let server := { server with tree }
  let method? := (Editor.member? "method" message).bind Json.asString?
  match method?, Editor.member? "id" message with
  | some method, some id =>
    let (server, response) := server.request method params
    writeMessage output (("id", id) :: answerMembers response)
    settle output server
  | some method, none => settle output (server.notify method params).1
  | none, _ => return server

/-- Serves an editor until it says no more. -/
partial def serve (input output : IO.FS.Stream) (server : Editor.Server) : IO Unit := do
  match ← readHeader input none with
  | none => return
  | some size =>
    let bytes ← readBytes input [] size
    match Json.read bytes with
    | .error _ => serve input output server
    | .ok message =>
      let server ← handle output server message
      if server.stage == .exited then return
      serve input output server

/-- Runs a command line. -/
def run (args : List String) : IO UInt32 := do
  let tree ← currentTree
  let home ← programDir
  match Command.parse args with
  | .ok .lsp =>
    serve (← IO.getStdin) (← IO.getStdout) { tree, home }
    return 0
  | .ok command =>
    let tree ← loadAnalyzers tree home (command.settings tree.cwdPath).analyzer
    match command with
    | .watch _ _ _ => watch tree home command
    | _ => report (Console.run tree home args)
  | .error _ => report (Console.run tree home args)

end Deadwood.Main

/-- The program. -/
def main (args : List String) : IO UInt32 := Deadwood.Main.run args
