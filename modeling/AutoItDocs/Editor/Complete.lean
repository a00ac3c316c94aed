import AutoItDocs.Catalog
import AutoItDocs.Script.LineIndex
import AutoItDocs.Script.Word
/-!
Completing: the entries of the catalog, unless a variable or a macro is being typed. Editors narrow
the entries by what was typed.
-/
namespace AutoItDocs.Editor

/-- The character before the offset is a sigil. -/
def followsSigil (text : List Char) (offset : Nat) : Bool :=
  match (Text.takeBytes offset text).getLast? with
  | some c => (WordKind.ofSigil? c).isSome
  | none => false

/-- All entries of a catalog, when there are any. -/
def entriesOf? (catalog : Catalog) : Option (List CompletionEntry) :=
  if catalog.completions.isEmpty then none else some catalog.completions

/-- What an editor offers at a position. -/
def completionAt (index : LineIndex) (catalog : Catalog) (position : Position) :
    Except OffsetError (Option (List CompletionEntry)) :=
  match index.offsetAt? position with
  | none => .ok none
  | some offset =>
    if followsSigil index.text offset then .ok none
    else (Word.at? index.text offset).map fun word =>
      match word with
      | some word => if word.kind = .function then entriesOf? catalog else none
      | none => entriesOf? catalog

end AutoItDocs.Editor
