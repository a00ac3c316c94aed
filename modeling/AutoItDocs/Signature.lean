import AutoItDocs.Markdown
/-!
Documented call signatures: what a function is called, what it takes and what it returns, and the
markdown that an editor shows for it.
-/
namespace AutoItDocs

structure Parameter where
  label : String := ""
  documentation : String := ""
  /-- Set when callers may leave the parameter out, whether or not a default is documented. -/
  optional : Bool := false
  default : Option String := none
  deriving DecidableEq, Repr, Inhabited

namespace Parameter

def required (label documentation : String) : Parameter := { label, documentation }

def omissible (label documentation : String) : Parameter :=
  { label, documentation, optional := true }

/-- The parameter with a documented default, which makes it optional. -/
def withDefault (p : Parameter) (value : String) : Parameter :=
  { p with optional := true, default := some value }

/-- A parameter whose default is documented. -/
def defaulted (label documentation value : String) : Parameter :=
  (required label documentation).withDefault value

def isOptional (p : Parameter) : Bool := p.optional || p.default.isSome

/-- Whether `part` occurs in `text`. -/
def occursIn (part text : List Char) : Bool :=
  part.isPrefixOf text || match text with
    | [] => false
    | _ :: rest => occursIn part rest

/-- The parts of a parameter's description: the mark of an optional parameter, unless its text has
the mark already, then the text, then the default. -/
def clauses (p : Parameter) : List String :=
  let marked := occursIn Markdown.optionalMark.toList p.documentation.toList
  (if p.isOptional && !marked then [Markdown.optionalMark] else []) ++
    (if p.documentation = "" then [] else [p.documentation]) ++
    (p.default.map Markdown.defaultSentence).toList

def description (p : Parameter) : String := " ".intercalate p.clauses

/-- The line for a parameter in its function's markdown. -/
def line (p : Parameter) : String :=
  let head := "`" ++ p.label ++ "` —"
  if p.description = "" then head else head ++ " " ++ p.description

end Parameter

structure Signature where
  name : String
  /-- Full call syntax. -/
  label : String := ""
  documentation : String := ""
  returns : Option String := none
  parameters : List Parameter := []
  deriving DecidableEq, Repr, Inhabited

namespace Signature

/-- How many parameters a caller has to pass. -/
def requiredCount (s : Signature) : Nat := (s.parameters.filter (!·.isOptional)).length

/-- Call syntax, summary, return value and parameters, those that are not empty. -/
def sections (s : Signature) : List String :=
  (if s.label = "" then [] else [Markdown.codeBlock s.label]) ++
    (if s.documentation = "" then [] else [s.documentation]) ++
    ((s.returns.filter (· ≠ "")).map fun text =>
      Markdown.clauses [Markdown.returnsHeader s.name, text]).toList ++
    (if s.parameters = [] then [] else [Markdown.clauses (s.parameters.map Parameter.line)])

def markdown (s : Signature) : String := "\n\n".intercalate s.sections

end Signature

end AutoItDocs
