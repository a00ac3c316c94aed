import AutoItDocs.Domain
import AutoItDocs.Uri.Percent
/-!
Hosts in addresses: names, and numeric addresses of 32 or 128 bits, which have several spellings.
-/
namespace AutoItDocs.Uri

inductive Host where
  | name (text : String)
  /-- A numeric address of 32 bits. -/
  | short (address : Nat)
  /-- A numeric address of 128 bits, in eight pieces. -/
  | long (pieces : List Nat)
  deriving DecidableEq, Repr, Inhabited

namespace Host

/-- The number that a part of a short address stands for. It is hexadecimal after `0x`, octal after
another zero, and else decimal. -/
def number? (text : List Char) : Option Nat :=
  let octal (c : Char) := '0' ≤ c && c ≤ '7'
  match text with
  | [] => none
  | ['0'] => some 0
  | '0' :: 'x' :: digits => Text.hexNumber? digits
  | '0' :: digits =>
    if digits.all octal then some (digits.foldl (fun n c => 8 * n + (c.toNat - '0'.toNat)) 0)
    else none
  | digits => if digits.all Char.isDigit then some (Text.decimalNumber digits) else none

/-- The labels of a domain in ASCII, without the empty one after a dot at the end. -/
def labels (domain : List Char) : List (List Char) :=
  let all := Text.pieces (· == '.') domain
  if 1 < all.length ∧ all.getLast? = some [] then all.dropLast else all

/-- A domain whose last label is a number is meant as a short address. -/
def endsInNumber (domain : List Char) : Bool :=
  (labels domain).getLast?.any fun label =>
    (!label.isEmpty && label.all Char.isDigit) || (number? label).isSome

/-- The short address of some numbers. All but the last are single bytes, and the last one fills the
bytes that are left. -/
def shortOf? : List Nat → Option Nat
  | [] => none
  | numbers =>
    let first := numbers.dropLast
    let last := numbers.getLast?.getD 0
    let room := Nat.pow 256 (4 - first.length)
    if numbers.length ≤ 4 ∧ first.all (· ≤ 255) ∧ last < room then
      some (first.foldl (fun n byte => 256 * n + byte) 0 * room + last)
    else none

def short? (domain : List Char) : Option Host := do
  let numbers ← (labels domain).mapM number?
  return .short (← shortOf? numbers)

/-- A byte in a long address, in decimal without zeros in front. -/
def byte? (digits : List Char) : Option Nat :=
  let number := Text.decimalNumber digits
  if digits.isEmpty || !digits.all Char.isDigit || 255 < number then none
  else if digits.head? == some '0' && digits.length ≠ 1 then none
  else some number

/-- A piece of a long address, in hexadecimal; the last one may be four bytes, as two pieces. -/
def piece? (text : List Char) (isLast : Bool) : Option (List Nat) :=
  if isLast && text.contains '.' then
    match (Text.pieces (· == '.') text).mapM byte? with
    | some [a, b, c, d] => some [256 * a + b, 256 * c + d]
    | _ => none
  else if text.isEmpty || 4 < text.length then none
  else (Text.hexNumber? text).map ([·])

/-- Pieces between colons, of which there may be none at all. -/
def pieces? (text : List Char) (endsAddress : Bool) : Option (List Nat) :=
  if text.isEmpty then some []
  else
    let all := Text.pieces (· == ':') text
    ((all.mapIdx fun i piece => (piece, endsAddress && i + 1 == all.length)).mapM
      fun (piece, isLast) => piece? piece isLast).map List.flatten

/-- The text before the first double colon, and what follows it. -/
def splitGap (before : List Char) : List Char → Option (List Char × List Char)
  | ':' :: ':' :: rest => some (before.reverse, rest)
  | c :: rest => splitGap (c :: before) rest
  | [] => none

/-- The eight pieces of a long address. A double colon stands for at least one piece that is
zero. -/
def long? (text : List Char) : Option Host :=
  match splitGap [] text with
  | none => do
    let pieces ← pieces? text true
    if pieces.length = 8 then some (.long pieces) else none
  | some (before, after) => do
    let front ← pieces? before false
    let back ← pieces? after true
    let given := front.length + back.length
    if given < 8 then some (.long (front ++ List.replicate (8 - given) 0 ++ back)) else none

/-- The host of a text, read by `plain` unless it begins with a bracket. -/
def ofText? (plain : List Char → Option Host) : List Char → Option Host
  | '[' :: rest => if rest.getLast? = some ']' then long? rest.dropLast else none
  | text => plain text

/-- A host that is a domain, where percent signs stand for bytes. -/
def domain? : List Char → Option Host :=
  ofText? fun text => do
    let domain ← Domain.toAscii? (← decode? text).toList
    if domain.isEmpty then none
    else if endsInNumber domain then short? domain
    else some (.name (String.ofList domain))

/-- Characters that no host holds, not even where it is no domain. -/
def isRefused (c : Char) : Bool :=
  ['\x00', '\t', '\n', '\r', ' ', '#', '/', ':', '<', '>', '?', '@', '[', '\\', ']', '^',
    '|'].contains c

/-- A host that need not be a domain and is taken as it is written. -/
def verbatim? : List Char → Option Host :=
  ofText? fun text =>
    if text.any isRefused then none
    else some (.name (String.ofList (percentEncode isControl text)))

end Host

end AutoItDocs.Uri
