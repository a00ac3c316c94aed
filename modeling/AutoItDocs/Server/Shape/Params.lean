import AutoItDocs.Server.Shape.Capability
/-!
Shapes of the parameters of methods. Where a method lets the editor follow the work on a request,
its parameters are an object; all others may be arrays too.
-/
namespace AutoItDocs.Shape

def inDocument : List (String × Shape) := [("textDocument", document)]

def atPosition : List (String × Shape) := [("textDocument", document), ("position", position)]

def inRange : List (String × Shape) := [("textDocument", document), ("range", range)]

/-- The token under which the editor hears how the work goes on. -/
def workToken : List (String × Shape) := [("workDoneToken", .optional textOrNumber)]

/-- The same, and the token under which it takes results that are not complete. -/
def bothTokens : List (String × Shape) :=
  workToken ++ [("partialResultToken", .optional textOrNumber)]

/-- Parameters of a request whose work can be followed. -/
def followed (fields : List (String × Shape)) : Shape := .object (fields ++ workToken)

/-- Parameters of a request whose work can be followed and whose results can come in parts. -/
def streamed (fields : List (String × Shape)) : Shape := .object (fields ++ bothTokens)

def start : Shape :=
  .record [
    ("processId", .optional .unsigned),
    ("rootPath", .optional .text),
    ("rootUri", .omissible (.optional .uri)),
    ("initializationOptions", .optional .any),
    ("capabilities", capabilities),
    ("trace", .omissible (.optional (.oneOf ["off", "messages", "verbose"]))),
    ("workspaceFolders", .optional (.list (.record [("uri", .uri), ("name", .text)]))),
    ("clientInfo", .optional (.record [("name", .text), ("version", .optional .text)])),
    ("locale", .optional .text)]

/-- Parameters without any fields that are known. -/
def empty : Shape := .record []

def opened : Shape :=
  .record [("textDocument", .record [
    ("uri", .uri), ("languageId", .text), ("version", .signed), ("text", .text)])]

def changed : Shape :=
  .record [("textDocument", versioned), ("contentChanges", .list (.record [
    ("range", .optional range), ("rangeLength", .optional .unsigned), ("text", .text)]))]

def closed : Shape := .record inDocument

def hover : Shape := followed atPosition

def completion : Shape :=
  streamed (atPosition ++ [("context", .optional (.record [
    ("triggerKind", .signed), ("triggerCharacter", .optional .text)]))])

/-- The signatures that an editor shows already. -/
def shownSignatures : Shape :=
  let parameter := .record [
    ("label", .either .text (.pair .unsigned .unsigned)), ("documentation", .optional documentation)]
  let signature := .record [
    ("label", .text), ("documentation", .optional documentation),
    ("parameters", .optional (.list parameter)), ("activeParameter", .optional .unsigned)]
  .record [
    ("signatures", .list signature), ("activeSignature", .optional .unsigned),
    ("activeParameter", .optional .unsigned)]

def signatureHelp : Shape :=
  followed (atPosition ++ [("context", .optional (.record [
    ("triggerKind", .signed), ("triggerCharacter", .optional .text), ("isRetrigger", .truth),
    ("activeSignatureHelp", .optional shownSignatures)]))])

def completionItem : Shape :=
  .record [
    ("label", .text),
    ("labelDetails",
      .optional (.record [("detail", .optional .text), ("description", .optional .text)])),
    ("kind", .optional .signed),
    ("detail", .optional .text),
    ("documentation", .optional documentation),
    ("deprecated", .optional .truth),
    ("preselect", .optional .truth),
    ("sortText", .optional .text),
    ("filterText", .optional .text),
    ("insertText", .optional .text),
    ("insertTextFormat", .optional .signed),
    ("insertTextMode", .optional .signed),
    ("textEdit", .optional completionEdit),
    ("additionalTextEdits", .optional (.list textEdit)),
    ("command", .optional command),
    ("commitCharacters", .optional texts),
    ("data", .optional .any),
    ("tags", .optional numbers)]

def codeLens : Shape :=
  .record [("range", range), ("command", .optional command), ("data", .optional .any)]

def documentLink : Shape :=
  .record [
    ("range", range), ("target", .optional .uri), ("tooltip", .optional .text),
    ("data", .optional .any)]

def codeAction : Shape :=
  .record [
    ("title", .text),
    ("kind", .optional .text),
    ("diagnostics", .optional (.list diagnostic)),
    ("edit", .optional workspaceEdit),
    ("command", .optional command),
    ("isPreferred", .optional .truth),
    ("disabled", .optional (.record [("reason", .text)])),
    ("data", .optional .any)]

def codeActionContext : Shape :=
  .record [
    ("diagnostics", .list diagnostic), ("only", .optional texts),
    ("triggerKind", .optional .signed)]

def color : Shape :=
  .record [("red", .number), ("green", .number), ("blue", .number), ("alpha", .number)]

/-- An item of a hierarchy, whose tags have a shape. -/
def hierarchyItem (tags : Shape) : Shape :=
  .record [
    ("name", .text), ("kind", .signed), ("tags", .optional tags), ("detail", .optional .text),
    ("uri", .uri), ("range", range), ("selectionRange", range), ("data", .optional .any)]

def callItem : List (String × Shape) := [("item", hierarchyItem numbers)]

def typeItem : List (String × Shape) := [("item", hierarchyItem .signed)]

def inlayHint : Shape :=
  let part := .record [
    ("value", .text), ("tooltip", .optional documentation), ("location", .optional location),
    ("command", .optional command)]
  .record [
    ("position", position),
    ("label", .either .text (.list part)),
    ("kind", .optional .signed),
    ("textEdits", .optional (.list textEdit)),
    ("tooltip", .optional documentation),
    ("paddingLeft", .optional .truth),
    ("paddingRight", .optional .truth),
    ("data", .optional .any)]

/-- A symbol, whose location may be known only by its document. -/
def workspaceSymbol : Shape :=
  .record [
    ("name", .text), ("kind", .signed), ("tags", .optional numbers),
    ("containerName", .optional .text), ("location", .either location document),
    ("data", .optional .any)]

/-- How to lay out text; an option that is not known is a truth value, a number or a text. -/
def formattingOptions : Shape :=
  .extensible [
    ("tabSize", .unsigned), ("insertSpaces", .truth), ("trimTrailingWhitespace", .optional .truth),
    ("insertFinalNewline", .optional .truth), ("trimFinalNewlines", .optional .truth)]
    (.either .truth textOrNumber)

def formatting : List (String × Shape) := [("options", formattingOptions)]

/-- Files by names that need not be addresses. -/
def files (names : List String) : Shape :=
  .record [("files", .list (.record (names.map (·, .text))))]

end AutoItDocs.Shape
