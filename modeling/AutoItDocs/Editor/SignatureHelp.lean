import AutoItDocs.Catalog
import AutoItDocs.Script.LineIndex
import AutoItDocs.Script.Statement
import AutoItDocs.Script.CallContext
/-!
Signature help: the signature of the call that is being typed at a position, and the parameter that
is typed there.
-/
namespace AutoItDocs.Editor

structure SignatureHelp where
  label : String
  documentation : String
  /-- Label and description of each parameter. -/
  parameters : List (String × String)
  activeParameter : Nat
  deriving DecidableEq, Repr, Inhabited

namespace SignatureHelp

/-- A signature without a label is shown by its name. -/
def ofSignature (s : Signature) (activeParameter : UInt32) : SignatureHelp where
  label := if s.label = "" then s.name else s.label
  documentation := s.documentation
  parameters := s.parameters.map fun p => (p.label, p.description)
  activeParameter := activeParameter.toNat

end SignatureHelp

/-- The call around an offset, looked for in the statement up to it. -/
def callAt? (text : List Char) (offset : Nat) : Option (List Char × UInt32) :=
  CallContext.find? (Statement.upTo text offset)

/-- What an editor shows for the call around a position. -/
def signatureHelpAt? (index : LineIndex) (catalog : Catalog) (position : Position) :
    Option SignatureHelp := do
  let offset ← index.offsetAt? position
  let (name, active) ← callAt? index.text offset
  let signature ← catalog.signature? (String.ofList name)
  return .ofSignature signature active

end AutoItDocs.Editor
