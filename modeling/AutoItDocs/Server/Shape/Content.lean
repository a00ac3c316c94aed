import AutoItDocs.Server.Shape
/-!
Shapes of what the parameters of many methods are made of: places in documents, texts to show,
diagnostics, and changes to documents.
-/
namespace AutoItDocs.Shape

def position : Shape := .record [("line", .unsigned), ("character", .unsigned)]

def range : Shape := .record [("start", position), ("end", position)]

/-- A range in a document. -/
def location : Shape := .record [("uri", .uri), ("range", range)]

/-- The name of a document. -/
def document : Shape := .record [("uri", .uri)]

/-- The name of a document and the version that is meant. -/
def versioned : Shape := .record [("uri", .uri), ("version", .signed)]

def texts : Shape := .list .text

/-- Numbers of kinds, tags and the like; no set of them is closed. -/
def numbers : Shape := .list .signed

def textOrNumber : Shape := .either .signed .text

/-- The formats in which text is shown. -/
def markupKind : Shape := .oneOf ["plaintext", "markdown"]

/-- A text to show, plain or in a format. -/
def documentation : Shape := .either .text (.record [("kind", markupKind), ("value", .text)])

def command : Shape :=
  .record [("title", .text), ("command", .text), ("arguments", .optional (.list .any))]

def diagnostic : Shape :=
  .record [
    ("range", range), ("severity", .optional .signed), ("code", .optional textOrNumber),
    ("codeDescription", .optional (.record [("href", .uri)])), ("source", .optional .text),
    ("message", .text),
    ("relatedInformation", .optional (.list (.record [("location", location), ("message", .text)]))),
    ("tags", .optional numbers), ("data", .optional .any)]

def textEdit : Shape := .record [("range", range), ("newText", .text)]

/-- A text that a completion inserts, with the range that it replaces or the two ranges from which
the user chooses. -/
def completionEdit : Shape :=
  .either textEdit (.record [("newText", .text), ("insert", range), ("replace", range)])

def documentEdit : Shape :=
  .record [
    ("textDocument", .record [("uri", .uri), ("version", .optional .signed)]),
    ("edits", .list textEdit)]

def fileOptions : Shape :=
  .record [("overwrite", .optional .truth), ("ignoreIfExists", .optional .truth)]

/-- A file that is made, renamed or deleted. -/
def fileChange : Shape :=
  .tagged "kind" [
    ("create", .record [
      ("uri", .uri), ("options", .optional fileOptions), ("annotationId", .optional .text)]),
    ("rename", .record [
      ("oldUri", .uri), ("newUri", .uri), ("options", .optional fileOptions),
      ("annotationId", .optional .text)]),
    ("delete", .record [
      ("uri", .uri),
      ("options", .optional (.record [
        ("recursive", .optional .truth), ("ignoreIfNotExists", .optional .truth),
        ("annotationId", .optional .text)]))])]

/-- Changes to several documents and files. -/
def workspaceEdit : Shape :=
  .record [
    ("changes", .omissible (.optional (.mapping .uri (.list textEdit)))),
    ("documentChanges", .optional (.list (.either fileChange documentEdit))),
    ("changeAnnotations", .optional (.mapping .text (.record [
      ("label", .text), ("needsConfirmation", .optional .truth),
      ("description", .optional .text)])))]

end AutoItDocs.Shape
