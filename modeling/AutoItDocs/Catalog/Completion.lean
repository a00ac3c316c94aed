import AutoItDocs.Signature.Table
/-!
Completion entries: what an editor offers for a function, and the text that it inserts.
-/
namespace AutoItDocs

structure CompletionEntry where
  name : String
  /-- The editor protocol's number for the kind of entry. -/
  kind : Nat
  /-- Text that is inserted; the bare name, since the parameters are shown while typing them. -/
  insertText : String
  /-- Note on the header that the function needs; may be empty. -/
  detail : String
  documentation : String
  deriving DecidableEq, Repr, Inhabited

namespace CompletionEntry

/-- The kind of entries for functions. -/
def functionKind : Nat := 3

def ofSignature (kind : Nat) (detail : String) (s : Signature) : CompletionEntry :=
  { name := s.name, kind, insertText := s.name, detail, documentation := s.markdown }

end CompletionEntry

/-- One entry for each record, in table order. -/
def SignatureTable.completions (t : SignatureTable) (kind : Nat) (detail : String) :
    List CompletionEntry :=
  t.entries.map (.ofSignature kind detail)

end AutoItDocs
