import AutoItDocs.Catalog.Merge
import AutoItDocs.Catalog.Completion
import AutoItDocs.Library.Bundled
/-!
The catalog that an editor session is served from: the merged table of some modules, with its
markdown and its completion entries rendered once.
-/
namespace AutoItDocs

structure Catalog where
  merged : Merged := {}
  /-- Markdown by stored name. -/
  hovers : Dictionary String String := .empty
  /-- Entries in table order, each with the detail of the module whose record is kept. -/
  completions : List CompletionEntry := []
  deriving DecidableEq, Repr, Inhabited

namespace Catalog

def empty : Catalog := {}

/-- Whether the module with index `id` provides the record that is kept for the entry's function,
under the entry's spelling. -/
def provides (m : Merged) (id : Nat) (entry : CompletionEntry) : Bool :=
  m.origins.get? (Text.foldCase entry.name) == some id && m.table.contains entry.name

/-- The entries of the records that are kept, by stored name. -/
def winners (m : Merged) (modules : List Library) : Dictionary String CompletionEntry :=
  .ofList (modules.zipIdx.flatMap fun (l, id) =>
    ((l.table.completions CompletionEntry.functionKind l.detail).filter (provides m id)).map
      fun entry => (entry.name, entry))

def ofMerged (m : Merged) (modules : List Library) : Catalog where
  merged := m
  hovers := m.table.markdown
  completions := (winners m modules).takeOut m.table.names

/-- The catalog of modules merged in order. -/
def build (policy : MergePolicy) (modules : List Library) : Except Clash Catalog :=
  (Merged.empty.addAll policy (modules.map fun l => (l.name, l.table))).map (ofMerged · modules)

/-- The catalog of modules, where a clash gives the empty catalog. -/
def buildOrEmpty (policy : MergePolicy) (modules : List Library) : Catalog :=
  match build policy modules with
  | .ok c => c
  | .error _ => empty

/-- The catalog of the bundled modules. -/
def bundled : Catalog := buildOrEmpty .lastWins Library.bundled

/-- The stored name of a function: `name` as it is, else by its lowercase form. -/
def resolve? (c : Catalog) (name : String) : Option String :=
  if c.merged.table.contains name then some name else c.merged.storedName? name

def signature? (c : Catalog) (name : String) : Option Signature :=
  (c.resolve? name).bind c.merged.table.get?

def hover? (c : Catalog) (name : String) : Option String :=
  (c.resolve? name).bind c.hovers.get?

/-- The module that provides a function. -/
def originOf? (c : Catalog) (name : String) : Option String := c.merged.originOf? name

def collisions (c : Catalog) : List Collision := c.merged.collisions

def names (c : Catalog) : List String := c.merged.table.names

def size (c : Catalog) : Nat := c.merged.table.size

def isEmpty (c : Catalog) : Bool := c.merged.table.isEmpty

end Catalog

end AutoItDocs
