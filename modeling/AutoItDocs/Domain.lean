import AutoItDocs.Domain.Direction
import AutoItDocs.Domain.Joining
import AutoItDocs.Domain.Mapping
import AutoItDocs.Domain.Punycode
import AutoItDocs.Text.Mark
import AutoItDocs.Text.Normal
/-!
Names of domains and their form in ASCII: characters are mapped, the text is brought into normal
form, and every label that is not ASCII is written in Punycode. A label may be given in that form
already; it then has to stand for a text that the mapping leaves as it is.
-/
namespace AutoItDocs.Domain

/-- Characters of ASCII that no domain holds. -/
def isRefused (c : Char) : Bool :=
  c.toNat ≤ 0x20 || c.toNat == 0x7F ||
    ['#', '%', '/', ':', '<', '>', '?', '@', '[', '\\', ']', '^', '|'].contains c

def isAscii (text : List Char) : Bool := text.all fun c => c.toNat < 0x80

/-- The text that a text stands for. -/
def mappedText? (text : List Char) : Option (List Char) :=
  (text.mapM mapped?).map fun images => Text.normalForm images.flatten

/-- A part of a domain between dots. -/
structure Label where
  text : List Char
  ascii : List Char
  deriving DecidableEq, Repr

namespace Label

/-- The label in Punycode, of which this is the part after its mark. -/
def ofPunycode? (written : List Char) : Option Label := do
  if written.isEmpty || written.getLast? == some '-' || !isAscii written || 2000 < written.length then
    none
  else
    let text ← Punycode.decode? written
    if mappedText? text = some text then some ⟨text, 'x' :: 'n' :: '-' :: '-' :: written⟩ else none

/-- The label that a mapped text stands for. -/
def ofText? : List Char → Option Label
  | 'x' :: 'n' :: '-' :: '-' :: written => ofPunycode? written
  | text =>
    let ascii :=
      if isAscii text then text else 'x' :: 'n' :: '-' :: '-' :: Punycode.encode text
    some ⟨text, ascii⟩

/-- A label does not begin with a mark. One that has to be encoded has a limited length. -/
def isValid (l : Label) : Bool :=
  !l.text.head?.any Text.isMark && Joining.allows l.text &&
    (isAscii l.text || l.text.length ≤ 1000)

end Label

/-- The labels of a domain. -/
def labels? (text : List Char) : Option (List Label) := do
  let mapped ← mappedText? text
  if mapped.any isRefused then none
  else
    let labels ← (Text.pieces (· == '.') mapped).mapM Label.ofText?
    let isDirected := labels.any fun l => l.text.any fun c => (Direction.ofChar c).isBackward
    if labels.all fun l => l.isValid && (!isDirected || Direction.allows l.text) then some labels
    else none

/-- The form of a domain in ASCII, by which domains are compared. -/
def toAscii? (text : List Char) : Option (List Char) :=
  (labels? text).map fun labels => List.intercalate ['.'] (labels.map (·.ascii))

end AutoItDocs.Domain
