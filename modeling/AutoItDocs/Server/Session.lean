import AutoItDocs.Editor.Encoding
import AutoItDocs.Server.Documents
import AutoItDocs.Settings
/-!
Sessions of an editor with the server, one message after the other. A session begins with a start
request, which builds the catalog, and ends with a request to shut down and a notification to exit.
What arrives out of turn is refused or dropped and changes nothing.
-/
namespace AutoItDocs

/-- What an editor asks for at a position. -/
inductive Feature where
  | hover
  | completion
  | signatureHelp
  deriving DecidableEq, Repr, Inhabited

/-- What an editor sends, with its parameters read. -/
inductive Message where
  /-- The request that begins a session, with the directory that the editor works in. -/
  | start (root : Option Path)
  | malformedStart
  /-- The notification that the editor has taken the answer to its start request. -/
  | started
  /-- The request to end the session. -/
  | shutDown (wellFormed : Bool)
  /-- The same, sent as a notification. -/
  | shutDownNotice
  | exit
  | ask (feature : Feature) (uri : Uri) (position : Position)
  /-- A request that is known, but with parameters of the wrong form. -/
  | malformedRequest
  /-- A request that is known and well formed, but has no answer here. -/
  | unsupportedRequest
  | unknownRequest
  /-- A notification sent as a request. -/
  | misplacedNotification
  /-- The notification that withdraws a request, sent as a request itself. -/
  | misplacedCancellation
  | opened (uri : Uri) (text : String) (version : Int)
  /-- New texts of a document, of which the first is used. -/
  | changed (uri : Uri) (texts : List String) (version : Int)
  | closed (uri : Uri)
  /-- Any other notification. -/
  | ignored
  deriving DecidableEq, Repr, Inhabited

inductive ErrorCode where
  | parseError
  | invalidRequest
  | methodNotFound
  | invalidParams
  | internalError
  | notStarted
  deriving DecidableEq, Repr, Inhabited

def ErrorCode.number : ErrorCode → Int
  | .parseError => -32700
  | .invalidRequest => -32600
  | .methodNotFound => -32601
  | .invalidParams => -32602
  | .internalError => -32603
  | .notStarted => -32002

inductive Reply where
  | result (value : Json)
  | error (code : ErrorCode)
  /-- Notifications are not answered. -/
  | none
  /-- The server has exited. -/
  | exited
  deriving Inhabited

/-- How far a session has come. -/
inductive Phase where
  | fresh
  | serving
  | closing
  | exited
  deriving DecidableEq, Repr, Inhabited

/-- What the server keeps: a cell for the catalog, which is filled once, and the open documents. -/
structure Backend where
  cell : Option Catalog := none
  documents : Documents := .empty
  deriving Inhabited

structure Session where
  phase : Phase
  backend : Backend
  deriving Inhabited

/-- What a message leads to: the session after it, the reply, and the lines logged to the editor. -/
structure Outcome where
  session : Session
  reply : Reply
  log : List String := []
  deriving Inhabited

namespace Session

def fresh : Session := ⟨.fresh, {}⟩

/-- What the server offers, as the answer to a start request. -/
def offer : Json :=
  .object [
    ("capabilities", .object [
      ("textDocumentSync", .natural 1),
      ("hoverProvider", .bool true),
      ("completionProvider", .object [("resolveProvider", .bool false)]),
      ("signatureHelpProvider", .object [
        ("triggerCharacters", .array [.string "(", .string ","])])]),
    ("serverInfo", .object [("name", .string "au3lsp"), ("version", .string "0.1.0")])]

/-- The catalog for the directory an editor works in. -/
def catalogFor (files : FileTree) (root : Option Path) : Catalog :=
  match root with
  | some start =>
    let (settings, directory) := Settings.discover files start
    settings.catalog directory files
  | none => Catalog.bundled

def announce (c : Catalog) : String :=
  "AutoIt language server initialized (" ++ toString c.size ++ " functions)"

def announceCollision (c : Collision) : String :=
  "`" ++ c.name ++ "` from `" ++ c.winner ++ "` shadows the one from `" ++ c.shadowed ++ "`"

/-- The reply to what a feature gives. -/
def replyWith {α : Type} (encode : α → Json) : Except OffsetError (Option α) → Reply
  | .ok answer => .result (.ofOption encode answer)
  | .error .insideCharacter => .error .internalError

/-- The answer about an open document. -/
def answer (catalog : Catalog) (d : Document) (feature : Feature) (position : Position) : Reply :=
  match feature with
  | .hover => replyWith Editor.Hover.encode (Editor.hoverAt d.index catalog position)
  | .completion =>
    replyWith (Json.ofList CompletionEntry.encode) (Editor.completionAt d.index catalog position)
  | .signatureHelp =>
    .result (.ofOption Editor.SignatureHelp.encode
      (Editor.signatureHelpAt? d.index catalog position))

/-- The documents after a notification about them. -/
def updateDocuments (documents : Documents) : Message → Documents
  | .opened uri text version => documents.openText uri text version
  | .changed uri (text :: _) version => documents.openText uri text version
  | .closed uri => documents.close uri
  | _ => documents

end Session

namespace Backend

/-- Puts a catalog into the cell, unless there is one in it. -/
def fill (b : Backend) (catalog : Catalog) : Backend :=
  { b with cell := b.cell.or (some catalog) }

/-- The catalog in the cell. If there is none, the bundled one is put into it. -/
def read (b : Backend) : Catalog × Backend :=
  let catalog := b.cell.getD Catalog.bundled
  (catalog, b.fill catalog)

/-- The answer about a document; null for one that is not open. -/
def ask (b : Backend) (feature : Feature) (uri : Uri) (position : Position) : Reply × Backend :=
  match b.documents.get? uri with
  | none => (.result .null, b)
  | some d =>
    let (catalog, b) := b.read
    (Session.answer catalog d feature position, b)

def update (b : Backend) (message : Message) : Backend :=
  { b with documents := Session.updateDocuments b.documents message }

end Backend

namespace Session

/-- How a message is refused while the session is not being served, `code` being for requests that
are known. -/
def refuse (code : ErrorCode) : Message → Reply
  | .start _ => .error code
  | .malformedStart => .error code
  | .shutDown _ => .error code
  | .ask .. => .error code
  | .malformedRequest => .error code
  | .unsupportedRequest => .error code
  | .misplacedNotification => .error code
  | .misplacedCancellation => .error .invalidRequest
  | .unknownRequest => .error .methodNotFound
  | _ => .none

def stepFresh (files : FileTree) (backend : Backend) : Message → Outcome
  | .start root => ⟨⟨.serving, backend.fill (catalogFor files root)⟩, .result offer, []⟩
  | .malformedStart => ⟨⟨.fresh, backend⟩, .error .invalidParams, []⟩
  | .exit => ⟨⟨.exited, backend⟩, .none, []⟩
  | message => ⟨⟨.fresh, backend⟩, refuse .notStarted message, []⟩

def stepServing (backend : Backend) (message : Message) : Outcome :=
  let stay : Session := ⟨.serving, backend⟩
  match message with
  | .start _ => ⟨stay, .error .invalidRequest, []⟩
  | .malformedStart => ⟨stay, .error .invalidRequest, []⟩
  | .started =>
    let (catalog, backend) := backend.read
    ⟨⟨.serving, backend⟩, .none, announce catalog :: catalog.collisions.map announceCollision⟩
  | .shutDown true => ⟨⟨.closing, backend⟩, .result .null, []⟩
  | .shutDown false => ⟨⟨.closing, backend⟩, .error .invalidParams, []⟩
  | .shutDownNotice => ⟨⟨.closing, backend⟩, .none, []⟩
  | .exit => ⟨⟨.exited, backend⟩, .none, []⟩
  | .ask feature uri position =>
    let (reply, backend) := backend.ask feature uri position
    ⟨⟨.serving, backend⟩, reply, []⟩
  | .malformedRequest => ⟨stay, .error .invalidParams, []⟩
  | .unsupportedRequest => ⟨stay, .error .methodNotFound, []⟩
  | .unknownRequest => ⟨stay, .error .methodNotFound, []⟩
  | .misplacedNotification => ⟨stay, .error .invalidRequest, []⟩
  | .misplacedCancellation => ⟨stay, .error .invalidRequest, []⟩
  | message => ⟨⟨.serving, backend.update message⟩, .none, []⟩

def stepClosing (backend : Backend) : Message → Outcome
  | .exit => ⟨⟨.exited, backend⟩, .none, []⟩
  | message => ⟨⟨.closing, backend⟩, refuse .invalidRequest message, []⟩

/-- One message of a session. -/
def step (files : FileTree) (session : Session) (message : Message) : Outcome :=
  match session.phase with
  | .fresh => stepFresh files session.backend message
  | .serving => stepServing session.backend message
  | .closing => stepClosing session.backend message
  | .exited => ⟨session, .exited, []⟩

/-- The session after some messages. -/
def after (files : FileTree) (session : Session) (messages : List Message) : Session :=
  messages.foldl (fun s message => (s.step files message).session) session

/-- The outcomes of messages one after the other. -/
def run (files : FileTree) : Session → List Message → List Outcome
  | _, [] => []
  | session, message :: rest =>
    let outcome := session.step files message
    outcome :: run files outcome.session rest

end Session

end AutoItDocs
