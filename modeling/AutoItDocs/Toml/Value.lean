/-!
TOML values. A table remembers how it came to be, because that decides what may still be added to
it.
-/
namespace AutoItDocs.Toml

/-- How a table came to be. -/
inductive TableForm where
  /-- Written in braces. -/
  | closed
  /-- Named on the way in the header of a table below it. -/
  | implied
  /-- Named on the way in a dotted key. -/
  | dotted
  /-- Named by its own header. -/
  | headed
  deriving DecidableEq, Repr, Inhabited

/-- Numbers that are not integers and dates carry no content: nothing reads them. -/
inductive Value where
  | string (value : String)
  | integer (value : Int)
  | float
  | boolean (value : Bool)
  | dateTime
  | array (elements : List Value)
  | table (form : TableForm) (entries : List (String × Value))
  /-- An array of tables that were written under headers. -/
  | tables (elements : List (List (String × Value)))
  deriving Inhabited

/-- The entries of a table, in the order in which their keys came. -/
abbrev Entries := List (String × Value)

namespace Entries

def get? (entries : Entries) (key : String) : Option Value :=
  (entries.find? (·.1 = key)).map (·.2)

def has (entries : Entries) (key : String) : Bool := entries.any (·.1 = key)

/-- The entries with the value of a key changed, which may fail; a key that is missing is added. -/
def alter (key : String) (change : Option Value → Option Value) : Entries → Option Entries
  | [] => (change none).map fun value => [(key, value)]
  | entry :: rest =>
    if entry.1 = key then (change (some entry.2)).map fun value => (key, value) :: rest
    else (alter key change rest).map (entry :: ·)

end Entries

/-- The list with its last element changed. -/
def alterLast {α : Type} (change : α → Option α) : List α → Option (List α)
  | [] => none
  | [a] => (change a).map ([·])
  | a :: rest => (alterLast change rest).map (a :: ·)

/-- Adds a value under a dotted key. On the way a key may lead into tables that dotted keys made,
and into those that headers of other tables imply, but it ends in one that dotted keys made. -/
def addDotted (value : Value) : List String → String → Entries → Option Entries
  | [], key, entries => if entries.has key then none else some (entries ++ [(key, value)])
  | step :: rest, key, entries =>
    entries.alter step fun
      | none => (addDotted value rest key []).map (.table .dotted)
      | some (.table form inner) =>
        if form = .dotted ∨ form = .implied ∧ rest ≠ [] then
          (addDotted value rest key inner).map (.table form)
        else none
      | some (.tables elements) =>
        if rest = [] then none else (alterLast (addDotted value rest key) elements).map .tables
      | some _ => none

/-- Changes the value that the header with a path of keys names. The way leads through any table but
those written in braces, and through the last table of an array. -/
def alterHeaded (change : Option Value → Option Value) :
    List String → String → Entries → Option Entries
  | [], key, entries => entries.alter key change
  | step :: rest, key, entries =>
    entries.alter step fun
      | none => (alterHeaded change rest key []).map (.table .implied)
      | some (.table form inner) =>
        if form = .closed then none else (alterHeaded change rest key inner).map (.table form)
      | some (.tables elements) => (alterLast (alterHeaded change rest key) elements).map .tables
      | some _ => none

end AutoItDocs.Toml
