import AutoItDocs.Server.Shape.Params
import AutoItDocs.Server.Session
/-!
The methods of the editor protocol, and the message that a method with its parameters stands for.
-/
namespace AutoItDocs.Message

open Shape (followed streamed inDocument atPosition inRange)

/-- Requests that are known but have no answer here, with the parameters that they take. -/
def unsupported : List (String × Shape) :=
  [("textDocument/declaration", streamed atPosition),
   ("textDocument/definition", streamed atPosition),
   ("textDocument/typeDefinition", streamed atPosition),
   ("textDocument/implementation", streamed atPosition),
   ("textDocument/references",
    streamed (atPosition ++ [("context", .record [("includeDeclaration", .truth)])])),
   ("textDocument/prepareCallHierarchy", followed atPosition),
   ("callHierarchy/incomingCalls", streamed Shape.callItem),
   ("callHierarchy/outgoingCalls", streamed Shape.callItem),
   ("textDocument/prepareTypeHierarchy", followed atPosition),
   ("typeHierarchy/supertypes", streamed Shape.typeItem),
   ("typeHierarchy/subtypes", streamed Shape.typeItem),
   ("textDocument/documentHighlight", streamed atPosition),
   ("textDocument/documentLink", streamed inDocument),
   ("documentLink/resolve", Shape.documentLink),
   ("textDocument/codeLens", streamed inDocument),
   ("codeLens/resolve", Shape.codeLens),
   ("textDocument/foldingRange", streamed inDocument),
   ("textDocument/selectionRange",
    streamed (inDocument ++ [("positions", .list Shape.position)])),
   ("textDocument/documentSymbol", streamed inDocument),
   ("textDocument/semanticTokens/full", streamed inDocument),
   ("textDocument/semanticTokens/full/delta",
    streamed (inDocument ++ [("previousResultId", .text)])),
   ("textDocument/semanticTokens/range", streamed inRange),
   ("textDocument/inlineValue", followed (inRange ++ [
    ("context", .record [("frameId", .signed), ("stoppedLocation", Shape.range)])])),
   ("textDocument/inlayHint", followed inRange),
   ("inlayHint/resolve", Shape.inlayHint),
   ("textDocument/moniker", streamed atPosition),
   ("completionItem/resolve", Shape.completionItem),
   ("textDocument/diagnostic", streamed (inDocument ++ [
    ("identifier", .optional .text), ("previousResultId", .optional .text)])),
   ("workspace/diagnostic", streamed [
    ("identifier", .optional .text),
    ("previousResultIds", .list (.record [("uri", .uri), ("value", .text)]))]),
   ("textDocument/codeAction",
    streamed (inRange ++ [("context", Shape.codeActionContext)])),
   ("codeAction/resolve", Shape.codeAction),
   ("textDocument/documentColor", streamed inDocument),
   ("textDocument/colorPresentation", streamed (inRange ++ [("color", Shape.color)])),
   ("textDocument/formatting", followed (inDocument ++ Shape.formatting)),
   ("textDocument/rangeFormatting", followed (inRange ++ Shape.formatting)),
   ("textDocument/onTypeFormatting",
    .object (atPosition ++ [("ch", .text)] ++ Shape.formatting)),
   ("textDocument/rename", followed (atPosition ++ [("newName", .text)])),
   ("textDocument/prepareRename", .record atPosition),
   ("textDocument/linkedEditingRange", followed atPosition),
   ("textDocument/willSaveWaitUntil",
    .record [("textDocument", Shape.document), ("reason", .signed)]),
   ("workspace/symbol", streamed [("query", .text)]),
   ("workspaceSymbol/resolve", Shape.workspaceSymbol),
   ("workspace/willCreateFiles", Shape.files ["uri"]),
   ("workspace/willRenameFiles", Shape.files ["oldUri", "newUri"]),
   ("workspace/willDeleteFiles", Shape.files ["uri"]),
   ("workspace/executeCommand",
    followed [("command", .text), ("arguments", .omissible (.list .any))])]

/-- Methods that are notifications. -/
def notifications : List String :=
  ["initialized", "textDocument/didOpen", "textDocument/didChange", "textDocument/willSave",
   "textDocument/didSave", "textDocument/didClose",
   "workspace/didChangeConfiguration", "workspace/didChangeWorkspaceFolders",
   "workspace/didCreateFiles", "workspace/didRenameFiles", "workspace/didDeleteFiles",
   "workspace/didChangeWatchedFiles"]

def uri? (value : Json) (place : Nat) (name : String) : Option Uri :=
  ((value.member? place name).bind Json.string?).bind Uri.parse?

/-- The document that parameters name. -/
def document? (params : Json) : Option Uri :=
  (params.member? 0 "textDocument").bind (uri? · 0 "uri")

def position? (params : Json) : Option Position := do
  let value ← params.field? "position"
  let line ← (value.member? 0 "line").bind Json.natural?
  let character ← (value.member? 1 "character").bind Json.natural?
  return ⟨line, character⟩

/-- The directory an editor works in: its first folder, or else its root, where these are
directories of this machine. -/
def root? (params : Json) : Option Path :=
  let folder := (params.member? 6 "workspaceFolders").bind fun folders =>
    (folders.array?.bind List.head?).bind (uri? · 0 "uri")
  (folder.bind Uri.filePath?).or ((uri? params 2 "rootUri").bind Uri.filePath?)

def opened? (params : Json) : Option Message := do
  let document ← params.member? 0 "textDocument"
  let uri ← uri? document 0 "uri"
  let version ← (document.member? 2 "version").bind Json.integer?
  let text ← (document.member? 3 "text").bind Json.string?
  return .opened uri text version

def changed? (params : Json) : Option Message := do
  let document ← params.member? 0 "textDocument"
  let uri ← uri? document 0 "uri"
  let version ← (document.member? 1 "version").bind Json.integer?
  let changes ← (params.member? 1 "contentChanges").bind Json.array?
  let texts ← changes.mapM fun change => (change.member? 2 "text").bind Json.string?
  return .changed uri texts version

def ask? (feature : Feature) (params : Json) : Option Message := do
  return .ask feature (← document? params) (← position? params)

/-- What `read` makes of parameters of a shape, or else `malformed`. -/
def withParams (shape : Shape) (malformed : Message) (params : Option Json)
    (read : Json → Option Message) : Message :=
  match params with
  | none => malformed
  | some params => if shape.accepts params then (read params).getD malformed else malformed

/-- Methods of which an editor may send more than a server knows; they need no answer. -/
def isProtocolInternal (method : String) : Bool := "$/".toList.isPrefixOf method.toList

/-- The message of a request. -/
def ofRequest (method : String) (params : Option Json) : Message :=
  match method with
  | "initialize" => withParams .start .malformedStart params fun p => some (.start (root? p))
  | "shutdown" => .shutDown params.isNone
  | "textDocument/hover" => withParams .hover .malformedRequest params (ask? .hover)
  | "textDocument/completion" => withParams .completion .malformedRequest params (ask? .completion)
  | "textDocument/signatureHelp" =>
    withParams .signatureHelp .malformedRequest params (ask? .signatureHelp)
  | "exit" => .exit
  | "$/cancelRequest" => .misplacedCancellation
  | _ =>
    if notifications.contains method then .misplacedNotification
    else
      match unsupported.find? (·.1 == method) with
      | some (_, shape) =>
        withParams shape .malformedRequest params fun _ => some .unsupportedRequest
      | none => if isProtocolInternal method then .ignored else .unknownRequest

/-- The message of a notification. -/
def ofNotification (method : String) (params : Option Json) : Message :=
  match method with
  | "initialized" => withParams .empty .ignored params fun _ => some .started
  | "shutdown" => .shutDownNotice
  | "exit" => .exit
  | "textDocument/didOpen" => withParams .opened .ignored params opened?
  | "textDocument/didChange" => withParams .changed .ignored params changed?
  | "textDocument/didClose" =>
    withParams .closed .ignored params fun p => (document? p).map .closed
  | _ => .ignored

end AutoItDocs.Message
