import AutoItDocs.Dictionary
import AutoItDocs.Script.LineIndex
import AutoItDocs.Uri
/-!
The documents that an editor has open, by address.
-/
namespace AutoItDocs

structure Document where
  index : LineIndex
  /-- The editor's number for this text. -/
  version : Int
  deriving Inhabited

def Document.ofText (text : String) (version : Int) : Document := ⟨.ofText text.toList, version⟩

def Document.text (d : Document) : String := String.ofList d.index.text

structure Documents where
  byUri : Dictionary Uri Document := .empty
  deriving Inhabited

namespace Documents

def empty : Documents := {}

def get? (d : Documents) (uri : Uri) : Option Document := d.byUri.get? uri

/-- Opens a document, or gives an open one a new text. -/
def openText (d : Documents) (uri : Uri) (text : String) (version : Int) : Documents :=
  ⟨d.byUri.put uri (.ofText text version)⟩

def close (d : Documents) (uri : Uri) : Documents := ⟨d.byUri.erase uri⟩

def size (d : Documents) : Nat := d.byUri.size

def isEmpty (d : Documents) : Bool := d.byUri.entries.isEmpty

@[simp] theorem get?_empty (uri : Uri) : empty.get? uri = none := rfl

theorem get?_openText (d : Documents) (uri other : Uri) (text : String) (version : Int) :
    (d.openText uri text version).get? other =
      if other = uri then some (.ofText text version) else d.get? other :=
  Dictionary.get?_put _ _ _ _

theorem get?_close (d : Documents) (uri other : Uri) :
    (d.close uri).get? other = if other = uri then none else d.get? other :=
  Dictionary.get?_erase _ _ _

end Documents

end AutoItDocs
