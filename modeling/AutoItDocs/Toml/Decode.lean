import AutoItDocs.Toml.Value
/-!
Reading records out of TOML values. A record is a table, or an array of the values of its fields in
their order; a date and time counts as a table without any fields that are known. Fields that are
not known are skipped.
-/
namespace AutoItDocs.Toml.Value

def text? : Value → Option String
  | .string value => some value
  | _ => none

def truth? : Value → Option Bool
  | .boolean value => some value
  | _ => none

/-- The elements of an array, all of one kind. -/
def listOf? {α : Type} (decode : Value → Option α) : Value → Option (List α)
  | .array elements => elements.mapM decode
  | .tables elements => elements.mapM fun entries => decode (.table .headed entries)
  | _ => none

/-- How the fields of a record are found. -/
inductive Fields where
  | named (entries : Entries)
  | listed (values : List Value)

def fields? : Value → Option Fields
  | .table _ entries => some (.named entries)
  | .array values => some (.listed values)
  | .dateTime => some (.named [])
  | _ => none

/-- The field with a name, which is the one at `place` in an array. -/
def Fields.get? (fields : Fields) (place : Nat) (name : String) : Option Value :=
  match fields with
  | .named entries => entries.get? name
  | .listed values => values[place]?

/-- Reads a field that has a default. -/
def Fields.read? {α : Type} (fields : Fields) (place : Nat) (name : String) (default : α)
    (decode : Value → Option α) : Option α :=
  match fields.get? place name with
  | some value => decode value
  | none => some default

/-- Reads a field that may be missing. -/
def Fields.readOptional? {α : Type} (fields : Fields) (place : Nat) (name : String)
    (decode : Value → Option α) : Option (Option α) :=
  fields.read? place name none fun value => (decode value).map some

/-- No entry and no element. -/
def isHollow : Value → Bool
  | .table _ [] => true
  | .array [] => true
  | .tables [] => true
  | _ => false

/-- A choice among words: the word itself, or a table that has the word as its only key, with
nothing in it. -/
def choice? : Value → Option String
  | .string word => some word
  | .table _ [(word, value)] => if value.isHollow then some word else none
  | _ => none

end AutoItDocs.Toml.Value
