import AutoItDocs.Signature.Table
/-!
Library modules: named tables of signatures, with the header that a script includes to call them.
-/
namespace AutoItDocs

structure Library where
  /-- Display name, by which settings disable a bundled module. -/
  name : String := ""
  /-- Header to include; `none` for functions that need none. -/
  header : Option String := none
  table : SignatureTable := {}
  deriving DecidableEq, Repr, Inhabited

namespace Library

def ofSignatures (name : String) (header : Option String) (signatures : List Signature) : Library :=
  ⟨name, header, .ofList signatures⟩

/-- Note on the header, shown with each function of the module; empty without a header. -/
def detail (l : Library) : String := (l.header.map Markdown.includeNote).getD ""

end Library

end AutoItDocs
