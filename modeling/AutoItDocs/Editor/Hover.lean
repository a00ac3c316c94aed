import AutoItDocs.Catalog
import AutoItDocs.Script.LineIndex
import AutoItDocs.Script.Word
/-!
Hovering: the documentation of the function whose name is under the cursor.
-/
namespace AutoItDocs.Editor

structure Hover where
  markdown : String
  range : Range
  deriving DecidableEq, Repr, Inhabited

/-- The documentation of a word, when it is a function of the catalog. -/
def Hover.ofWord? (index : LineIndex) (catalog : Catalog) (word : Word) : Option Hover :=
  if word.kind = .function then
    (catalog.hover? (String.ofList word.name)).map fun markdown =>
      ⟨markdown, index.rangeOf word.start word.stop⟩
  else none

/-- What an editor shows for the word at a position. -/
def hoverAt (index : LineIndex) (catalog : Catalog) (position : Position) :
    Except OffsetError (Option Hover) :=
  match index.offsetAt? position with
  | none => .ok none
  | some offset =>
    (Word.at? index.text offset).map fun word => word.bind (Hover.ofWord? index catalog)

end AutoItDocs.Editor
