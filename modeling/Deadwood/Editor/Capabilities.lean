import Deadwood.Json.Schema

/-!
# Capabilities

What the server offers to an editor, and what it asks of one.
-/

namespace Deadwood.Editor

/-- The command that starts a pass. -/
def scanCommand : String := "dcf.scanWorkspace"

/-- What the server offers. Formalises `server_capabilities`. -/
def serverCapabilities : Json :=
  .object [
    ("textDocumentSync", .object [("openClose", .bool true), ("change", Json.nat 2),
      ("save", .object [("includeText", .bool false)])]),
    ("hoverProvider", .bool true),
    ("codeLensProvider", .object [("resolveProvider", .bool false)]),
    ("executeCommandProvider", .object [("commands", .array [.string scanCommand])])]

/-- The value under a name, if the value is an object that has it. -/
def member? (name : String) : Json → Option Json
  | .object ms => Json.Members.get? ms name
  | _ => none

/-! ## Of an editor -/

open Json (Decoder Members)

/-- A record that is read from an object only. -/
def objectDecoder {α : Type} (name : String) (members : Members → Except Json.Mismatch α) :
    Decoder α :=
  Json.recordDecoder name members fun items => .error (.kind (.array items) ("struct " ++ name))

/-- What an editor says about lenses in a workspace. -/
def lensCapabilities : Decoder (Option Bool) :=
  objectDecoder "CodeLensWorkspaceClientCapabilities" fun ms =>
    ms.readOption "refreshSupport" Json.boolDecoder

/-- What an editor says about lenses among all that it can do in a workspace. -/
def workspaceCapabilities : Decoder (Option Bool) :=
  objectDecoder "WorkspaceClientCapabilities" fun ms =>
    (ms.readOption "codeLens" lensCapabilities).map Option.join

/-- What an editor says about lenses among all that it can do. -/
def clientCapabilities : Decoder (Option Bool) :=
  objectDecoder "ClientCapabilities" fun ms =>
    (ms.readOption "workspace" workspaceCapabilities).map Option.join

/-- Whether an editor can be asked to fetch its lenses again. Formalises
`supports_code_lens_refresh`. -/
def acceptsLensRefresh (client : Json) : Bool :=
  match clientCapabilities client with
  | .ok answer => answer.getD false
  | .error _ => false

/-- The answer to an editor that starts a session. -/
def greeting : Json :=
  .object [("capabilities", serverCapabilities),
    ("serverInfo", .object [("name", .string "dcf"), ("version", .string "0.1.0")])]

end Deadwood.Editor
