import AutoItDocs.Json
import AutoItDocs.Editor.Hover
import AutoItDocs.Editor.Complete
import AutoItDocs.Editor.SignatureHelp
/-!
What is shown in an editor, as JSON of the editor protocol.
-/
namespace AutoItDocs

open Json (natural ofList)

namespace Position

def encode (p : Position) : Json :=
  .object [("line", natural p.line), ("character", natural p.character)]

end Position

namespace Range

def encode (r : Range) : Json := .object [("start", r.start.encode), ("end", r.stop.encode)]

end Range

namespace Editor

def encodeMarkdown (text : String) : Json :=
  .object [("kind", .string "markdown"), ("value", .string text)]

def Hover.encode (h : Hover) : Json :=
  .object [("contents", encodeMarkdown h.markdown), ("range", h.range.encode)]

def SignatureHelp.encode (h : SignatureHelp) : Json :=
  let encodeParameter := fun (label, description) =>
    Json.object [("label", .string label), ("documentation", encodeMarkdown description)]
  .object [
    ("signatures", .array [.object [
      ("label", .string h.label),
      ("documentation", encodeMarkdown h.documentation),
      ("parameters", ofList encodeParameter h.parameters),
      ("activeParameter", natural h.activeParameter)]]),
    ("activeSignature", natural 0),
    ("activeParameter", natural h.activeParameter)]

end Editor

/-- The detail of an entry is left out when it is empty. The text is inserted as it is, which is the
format with number 1. -/
def CompletionEntry.encode (e : CompletionEntry) : Json :=
  .object ([("label", .string e.name), ("kind", natural e.kind)] ++
    (if e.detail = "" then [] else [("detail", .string e.detail)]) ++
    [("documentation", Editor.encodeMarkdown e.documentation),
     ("insertText", .string e.insertText),
     ("insertTextFormat", natural 1)])

end AutoItDocs
