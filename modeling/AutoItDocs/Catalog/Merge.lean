import AutoItDocs.Signature.Table
import AutoItDocs.Text.Lowercase
/-!
Merging the tables of several sources into one. Function names have no case, so two records collide
when the lowercase forms of their names are equal, within one source as well as between sources.
-/
namespace AutoItDocs

/-- Which record is kept when two sources define one function. -/
inductive MergePolicy where
  /-- The record that comes later takes the slot of the earlier one. -/
  | lastWins
  /-- The record that came first stays. -/
  | firstWins
  /-- No record may come twice. -/
  | refuse
  deriving DecidableEq, Repr, Inhabited

/-- A function that more than one record defines. -/
structure Collision where
  name : String
  /-- Source of the record that is left out. -/
  shadowed : String
  /-- Source of the record that is kept. -/
  winner : String
  deriving DecidableEq, Repr, Inhabited

/-- A collision where none is allowed: the refused record's name, the source that had the function
first, and the source of the refused record. -/
structure Clash where
  name : String
  first : String
  second : String
  deriving DecidableEq, Repr, Inhabited

def Clash.message (c : Clash) : String :=
  "function `" ++ c.name ++ "` is defined by both `" ++ c.first ++ "` and `" ++ c.second ++ "`"

/-- What has been merged so far. `origins` and `spellings` go by the lowercase form of a name. -/
structure Merged where
  table : SignatureTable := {}
  /-- Index in `sources` of the source whose record is kept. -/
  origins : Dictionary String Nat := .empty
  /-- The name under which the record is kept. -/
  spellings : Dictionary String String := .empty
  /-- Names of the sources in merge order. -/
  sources : List String := []
  collisions : List Collision := []
  deriving DecidableEq, Repr, Inhabited

namespace Merged

def empty : Merged := {}

/-- The source that provides a function. -/
def originOf? (m : Merged) (name : String) : Option String :=
  (m.origins.get? (Text.foldCase name)).bind (m.sources[·]?)

/-- The spelling under which a function is kept. -/
def storedName? (m : Merged) (name : String) : Option String :=
  m.spellings.get? (Text.foldCase name)

/-- Takes one record of the source with index `id`. -/
def take (policy : MergePolicy) (source : String) (id : Nat) (m : Merged) (s : Signature) :
    Except Clash Merged :=
  let key := Text.foldCase s.name
  match m.origins.get? key with
  | none => .ok { m with
      table := (m.table.insert s).2
      origins := m.origins.put key id
      spellings := m.spellings.put key s.name }
  | some previous =>
    let earlier := (m.sources[previous]?).getD ""
    match policy with
    | .refuse => .error ⟨s.name, earlier, source⟩
    | .firstWins => .ok { m with collisions := m.collisions ++ [⟨s.name, source, earlier⟩] }
    | .lastWins => .ok { m with
        table := match m.spellings.get? key with
          | some stored => (m.table.replace stored s).2
          | none => (m.table.insert s).2
        origins := m.origins.put key id
        spellings := m.spellings.put key s.name
        collisions := m.collisions ++ [⟨s.name, earlier, source⟩] }

/-- Takes records in order, up to the first that is refused. -/
def takeAll (policy : MergePolicy) (source : String) (id : Nat) :
    List Signature → Merged → Merged × Option Clash
  | [], m => (m, none)
  | s :: rest, m =>
    match m.take policy source id s with
    | .ok next => takeAll policy source id rest next
    | .error clash => (m, some clash)

/-- Merges the table of a further source. After a clash the records before it stay merged. -/
def add (policy : MergePolicy) (m : Merged) (source : String) (t : SignatureTable) :
    Merged × Option Clash :=
  takeAll policy source m.sources.length t.entries { m with sources := m.sources ++ [source] }

/-- Merges sources in order; a clash refuses the whole. -/
def addAll (policy : MergePolicy) (m : Merged) :
    List (String × SignatureTable) → Except Clash Merged
  | [] => .ok m
  | (source, t) :: rest =>
    match m.add policy source t with
    | (next, none) => addAll policy next rest
    | (_, some clash) => .error clash

end Merged

end AutoItDocs
