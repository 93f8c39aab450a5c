/-!
# Methods of the editor protocol

Which methods there are. Those that the server does not handle are refused, but only once a
session has been started; methods that do not exist are refused at any time.
-/

namespace Deadwood.Editor

/-- The methods of requests. -/
def requestMethods : List String := [
  "initialize", "shutdown",
  "textDocument/willSaveWaitUntil", "textDocument/declaration", "textDocument/definition",
  "textDocument/typeDefinition", "textDocument/implementation", "textDocument/references",
  "textDocument/prepareCallHierarchy", "callHierarchy/incomingCalls",
  "callHierarchy/outgoingCalls", "textDocument/prepareTypeHierarchy", "typeHierarchy/supertypes",
  "typeHierarchy/subtypes", "textDocument/documentHighlight", "textDocument/documentLink",
  "documentLink/resolve", "textDocument/hover", "textDocument/codeLens", "codeLens/resolve",
  "textDocument/foldingRange", "textDocument/selectionRange", "textDocument/documentSymbol",
  "textDocument/semanticTokens/full", "textDocument/semanticTokens/full/delta",
  "textDocument/semanticTokens/range", "textDocument/inlineValue", "textDocument/inlayHint",
  "inlayHint/resolve", "textDocument/moniker", "textDocument/completion",
  "completionItem/resolve", "textDocument/diagnostic", "workspace/diagnostic",
  "textDocument/signatureHelp", "textDocument/codeAction", "codeAction/resolve",
  "textDocument/documentColor", "textDocument/colorPresentation", "textDocument/formatting",
  "textDocument/rangeFormatting", "textDocument/onTypeFormatting", "textDocument/rename",
  "textDocument/prepareRename", "textDocument/linkedEditingRange", "workspace/symbol",
  "workspaceSymbol/resolve", "workspace/willCreateFiles", "workspace/willRenameFiles",
  "workspace/willDeleteFiles", "workspace/executeCommand"]

/-- The methods of notifications. -/
def notificationMethods : List String := [
  "initialized", "exit", "textDocument/didOpen", "textDocument/didChange",
  "textDocument/willSave", "textDocument/didSave", "textDocument/didClose",
  "workspace/didChangeWorkspaceFolders", "workspace/didCreateFiles", "workspace/didRenameFiles",
  "workspace/didDeleteFiles", "workspace/didChangeConfiguration",
  "workspace/didChangeWatchedFiles"]

/-- The method of the notification that a request is no longer of interest. -/
def cancelMethod : String := "$/cancelRequest"

/-- Whether a method need not be known. -/
def isOptional (name : String) : Bool := ['$', '/'].isPrefixOf name.toList

/-- Whether there is a method of a name. -/
def isMethod (name : String) : Bool :=
  requestMethods.contains name || notificationMethods.contains name

/-- Why a request is refused. -/
inductive RpcError where
  | notInitialized
  | invalidRequest
  | methodNotFound
  | invalidParams (text : String)
deriving DecidableEq, Repr, Inhabited

/-- The number that stands for a refusal. -/
def RpcError.code : RpcError → Int
  | .notInitialized => -32002
  | .invalidRequest => -32600
  | .methodNotFound => -32601
  | .invalidParams _ => -32602

/-- The wording of a refusal. -/
def RpcError.message : RpcError → String
  | .notInitialized => "Server not initialized"
  | .invalidRequest => "Invalid request"
  | .methodNotFound => "Method not found"
  | .invalidParams text => text

end Deadwood.Editor
