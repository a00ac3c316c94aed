import AutoItDocs.Json
import AutoItDocs.Uri
/-!
The shapes that parameters of the editor protocol have. A value is held against the shape that a
method asks for before anything is read from it.
-/
namespace AutoItDocs

inductive Shape where
  | any
  | truth
  | text
  /-- One of some words. It may also stand as the only name in an object, with null. -/
  | oneOf (words : List String)
  /-- The address of a document. -/
  | uri
  /-- An integer of 32 bits without a sign. -/
  | unsigned
  /-- An integer of 32 bits with a sign. -/
  | signed
  /-- Any number, with or without a fraction. -/
  | number
  /-- A value that may be missing or null. -/
  | optional (shape : Shape)
  /-- A value that may be missing. -/
  | omissible (shape : Shape)
  /-- A value of one shape or of the other. -/
  | either (first second : Shape)
  | list (shape : Shape)
  /-- An array of two values. -/
  | pair (first second : Shape)
  /-- An object in which all names have one shape and all values another. -/
  | mapping (names values : Shape)
  /-- An object with some fields, besides which it may have others. -/
  | object (fields : List (String × Shape))
  /-- The same, where all other fields have a shape. -/
  | extensible (fields : List (String × Shape)) (others : Shape)
  /-- An object with some fields, which may also be an array of the values of just these. -/
  | record (fields : List (String × Shape))
  /-- A value of one of several kinds. Its kind stands in the field `tag`, or first in an array; it
  is named by a word or by its place among the kinds. -/
  | tagged (tag : String) (kinds : List (String × Shape))
  deriving Inhabited, Repr

namespace Shape

def isUnsigned (n : Int) : Bool := 0 ≤ n && n ≤ 0xFFFFFFFF

def isSigned (n : Int) : Bool := -0x80000000 ≤ n && n ≤ 0x7FFFFFFF

/-- The word that a value stands for. -/
def wordOf? : Json → Option String
  | .string word => some word
  | .object [(word, .null)] => some word
  | _ => none

def isNumber : Json → Bool
  | .integer _ => true
  | .decimal _ => true
  | _ => false

/-- A kind is named by its word or its place. -/
def namesKind (kind : Json) (place : Nat) (word : String) : Bool :=
  kind == .string word || kind == .natural place

def mayBeMissing : Shape → Bool
  | .optional _ => true
  | .omissible _ => true
  | _ => false

mutual

def accepts : Shape → Json → Bool
  | .any, _ => true
  | .truth, value => value.bool?.isSome
  | .text, value => value.string?.isSome
  | .oneOf words, value => (wordOf? value).any words.contains
  | .uri, value => (value.string?.bind Uri.parse?).isSome
  | .unsigned, value => value.integer?.any isUnsigned
  | .signed, value => value.integer?.any isSigned
  | .number, value => isNumber value
  | .optional shape, value => value.isNull || shape.accepts value
  | .omissible shape, value => shape.accepts value
  | .either first second, value => first.accepts value || second.accepts value
  | .list shape, value => value.array?.any fun elements => elements.all shape.accepts
  | .pair first second, value =>
    match value with
    | .array [a, b] => first.accepts a && second.accepts b
    | _ => false
  | .mapping names values, value =>
    value.object?.any fun entries =>
      entries.all fun (name, inner) => names.accepts (.string name) && values.accepts inner
  | .object fields, value => value.object?.isSome && acceptsFields fields value
  | .extensible fields others, value =>
    (value.object?.any fun entries =>
      entries.all fun (name, inner) => fields.any (·.1 == name) || others.accepts inner) &&
      acceptsFields fields value
  | .record fields, value =>
    match value with
    | .array values => acceptsValues fields values
    | _ => value.object?.isSome && acceptsFields fields value
  | .tagged tag kinds, value =>
    match value with
    | .array (kind :: values) => acceptsKind 0 kinds kind (.array values)
    | _ => (value.field? tag).any fun kind => acceptsKind 0 kinds kind value

/-- Holds the fields of an object against shapes. -/
def acceptsFields : List (String × Shape) → Json → Bool
  | [], _ => true
  | (name, shape) :: rest, value =>
    (match value.field? name with
      | some inner => shape.accepts inner
      | none => shape.mayBeMissing) && acceptsFields rest value

/-- Holds values against the shapes of fields in their order. Values may be missing at the end, but
null stands for one that is only optional. -/
def acceptsValues : List (String × Shape) → List Json → Bool
  | [], values => values.isEmpty
  | (_, .omissible shape) :: rest, values =>
    match values with
    | [] => acceptsValues rest []
    | value :: values => shape.accepts value && acceptsValues rest values
  | (_, shape) :: rest, values =>
    match values with
    | [] => false
    | value :: values => shape.accepts value && acceptsValues rest values

/-- Holds a value against the shape of its kind, the kinds being numbered from `place`. -/
def acceptsKind (place : Nat) : List (String × Shape) → Json → Json → Bool
  | [], _, _ => false
  | (word, shape) :: rest, kind, value =>
    if namesKind kind place word then shape.accepts value
    else acceptsKind (place + 1) rest kind value

end

end Shape

/-- The value of a field of a record, which stands at `place` in an array. -/
def Json.member? (value : Json) (place : Nat) (name : String) : Option Json :=
  match value with
  | .array values => values[place]?
  | _ => value.field? name

end AutoItDocs
