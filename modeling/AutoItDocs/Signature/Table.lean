import AutoItDocs.Signature
import AutoItDocs.Dictionary
/-!
Tables of signatures by name, in insertion order. A record that is put again under its name keeps
its slot. The look-up goes through `slots`; a name that was put into the slot of another one can
leave a slot behind that no look-up reaches, which is why `names` may then repeat.
-/
namespace AutoItDocs

structure SignatureTable where
  entries : List Signature := []
  /-- The slot in `entries` of each name that can be looked up. -/
  slots : Dictionary String Nat := .empty
  deriving DecidableEq, Repr, Inhabited

namespace SignatureTable

def empty : SignatureTable := {}

def get? (t : SignatureTable) (name : String) : Option Signature :=
  (t.slots.get? name).bind (t.entries[·]?)

def contains (t : SignatureTable) (name : String) : Bool := t.slots.contains name

def size (t : SignatureTable) : Nat := t.entries.length

def isEmpty (t : SignatureTable) : Bool := t.entries.isEmpty

def names (t : SignatureTable) : List String := t.entries.map (·.name)

/-- Puts a record under its name, in the slot the name has or a new one, and gives back the record
that was there. -/
def insert (t : SignatureTable) (s : Signature) : Option Signature × SignatureTable :=
  match t.slots.get? s.name with
  | some slot => (t.entries[slot]?, { t with entries := t.entries.set slot s })
  | none => (none, ⟨t.entries ++ [s], t.slots.put s.name t.entries.length⟩)

/-- Puts a record into the slot of `name`, which is found under the record's name from then on, and
gives back the record that was there. Without such a slot the table stays as it is. -/
def replace (t : SignatureTable) (name : String) (s : Signature) :
    Option Signature × SignatureTable :=
  match t.slots.get? name with
  | some slot =>
    (t.entries[slot]?, ⟨t.entries.set slot s, (t.slots.erase name).put s.name slot⟩)
  | none => (none, t)

/-- Inserts records one after the other. -/
def insertAll (t : SignatureTable) (records : List Signature) : SignatureTable :=
  records.foldl (fun t s => (t.insert s).2) t

def ofList (records : List Signature) : SignatureTable := empty.insertAll records

/-- The table of all records of some tables, names compared exactly. A later record replaces an
earlier one of its name. -/
def union (tables : List SignatureTable) : SignatureTable :=
  ofList (tables.flatMap (·.entries))

/-- The markdown of every record by its name. -/
def markdown (t : SignatureTable) : Dictionary String String :=
  .ofList (t.entries.map fun s => (s.name, s.markdown))

@[simp] theorem insertAll_nil (t : SignatureTable) : t.insertAll [] = t := rfl

@[simp] theorem insertAll_cons (t : SignatureTable) (s : Signature) (records : List Signature) :
    t.insertAll (s :: records) = (t.insert s).2.insertAll records := rfl

theorem insertAll_append (t : SignatureTable) (a b : List Signature) :
    t.insertAll (a ++ b) = (t.insertAll a).insertAll b := by
  simp [insertAll]

end SignatureTable

end AutoItDocs
