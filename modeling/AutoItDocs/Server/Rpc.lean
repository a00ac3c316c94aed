import AutoItDocs.Server.Method
import AutoItDocs.Json.Parser
import AutoItDocs.Json.Printer
/-!
The envelope of messages: JSON-RPC objects, each after a header that gives its length in bytes.
-/
namespace AutoItDocs.Rpc

/-- A message and the identifier under which it is to be answered. -/
structure Envelope where
  id : Option Json
  message : Message
  deriving Inhabited

/-- The message of an object; none for an answer of the editor, which has no method. -/
def Envelope.ofJson? (value : Json) : Option Envelope := do
  let method ← (value.field? "method").bind Json.string?
  let params := value.field? "params"
  match value.field? "id" with
  | some id => return ⟨some id, .ofRequest method params⟩
  | none => return ⟨none, .ofNotification method params⟩

def object (fields : List (String × Json)) : Json :=
  .object (("jsonrpc", .string "2.0") :: fields)

def description : ErrorCode → String
  | .parseError => "Parse error"
  | .invalidRequest => "Invalid request"
  | .methodNotFound => "Method not found"
  | .invalidParams => "Invalid params"
  | .internalError => "Internal error"
  | .notStarted => "Server not initialized"

def errorObject (id : Json) (code : ErrorCode) : Json :=
  object [("error", .object [("code", .integer code.number),
    ("message", .string (description code))]), ("id", id)]

/-- The answer to a message; notifications have none. -/
def answer? (id : Option Json) (reply : Reply) : Option Json :=
  match id, reply with
  | some id, .result value => some (object [("result", value), ("id", id)])
  | some id, .error code => some (errorObject id code)
  | _, _ => none

/-- The notification that logs a line to the editor; the number marks information. -/
def logged (line : String) : Json :=
  object [("method", .string "window/logMessage"),
    ("params", .object [("type", .natural 3), ("message", .string line)])]

/-- What is sent for an outcome, in order. -/
def sent (id : Option Json) (outcome : Outcome) : List Json :=
  outcome.log.map logged ++ (answer? id outcome.reply).toList

/-- A value with its header. -/
def frame (value : Json) : String :=
  let body := value.render
  "Content-Length: " ++ toString body.utf8ByteSize ++ "\r\n\r\n" ++ body

/-- The length that a header line gives. -/
def contentLength? (line : String) : Option Nat :=
  let lowered := line.toList.map Char.toLower
  let name := "content-length:".toList
  if name.isPrefixOf lowered then
    let digits := ((lowered.drop name.length).dropWhile (· == ' ')).takeWhile Char.isDigit
    if digits.isEmpty then none else some (Text.decimalNumber digits)
  else none

end AutoItDocs.Rpc
