import AutoItDocs.Toml.Text
import AutoItDocs.Toml.Scalar
/-!
Reading TOML documents. A document is read into sections, each with its header and its assignments;
the sections are then put together into one table, which is where repeated keys and headers show.
-/
namespace AutoItDocs.Toml

/-- An assignment to a dotted key: the keys on the way, the last key, the value. -/
structure Assignment where
  before : List String
  key : String
  value : Value
  deriving Inhabited

/-- What starts a section. -/
inductive Header where
  /-- `[path]`: a table. -/
  | table (before : List String) (key : String)
  /-- `[[path]]`: a further table in an array. -/
  | element (before : List String) (key : String)
  deriving DecidableEq, Repr, Inhabited

structure Section where
  header : Header
  assignments : List Assignment
  deriving Inhabited

/-- Skips blanks, comments and line ends; a comment has to end at a line end. -/
def skipLines? (fuel : Nat) (text : List Char) : Option (List Char) :=
  match fuel with
  | 0 => none
  | fuel + 1 =>
    match skipBlanks text with
    | '#' :: rest => do skipLines? fuel (← newline? (skipComment ('#' :: rest)))
    | '\n' :: rest => skipLines? fuel rest
    | '\r' :: rest => do skipLines? fuel (← newline? ('\r' :: rest))
    | rest => some rest

/-- Adds assignments to a table. -/
def assignAll (assignments : List Assignment) (entries : Entries) : Option Entries :=
  assignments.foldlM (fun entries a => addDotted a.value a.before a.key entries) entries

mutual

/-- Reads a value that stands inside of `depth` others. The fuel bounds the steps, of which a text
needs at most two for each character. -/
def value? (fuel depth : Nat) (text : List Char) : Option (Value × List Char) :=
  match fuel with
  | 0 => none
  | fuel + 1 =>
    match text with
    | [] => none
    | c :: rest =>
      if c = '"' ∨ c = '\'' then (string? text).map fun (s, rest) => (.string s, rest)
      else if c = '[' then
        if depthLimit ≤ depth + 1 then none
        else (elements? fuel (depth + 1) rest).map fun (elements, rest) => (.array elements, rest)
      else if c = '\x7b' then
        if depthLimit ≤ depth + 1 then none
        else do
          let (assignments, rest) ← match skipBlanks rest with
            | '\x7d' :: rest => some ([], rest)
            | rest => assignments? fuel (depth + 1) rest
          return (.table .closed (← assignAll assignments []), rest)
      else scalarValue? text

/-- Reads the elements of an array up to its bracket; a comma may follow the last one. -/
def elements? (fuel depth : Nat) (text : List Char) : Option (List Value × List Char) :=
  match fuel with
  | 0 => none
  | fuel + 1 => do
    match ← skipLines? (text.length + 1) text with
    | ']' :: rest => return ([], rest)
    | text =>
      let (element, rest) ← value? fuel depth text
      match ← skipLines? (rest.length + 1) rest with
      | ']' :: rest => return ([element], rest)
      | ',' :: rest =>
        let (more, rest) ← elements? fuel depth rest
        return (element :: more, rest)
      | _ => none

/-- Reads the assignments in braces, of which there is at least one, up to the closing brace. -/
def assignments? (fuel depth : Nat) (text : List Char) : Option (List Assignment × List Char) :=
  match fuel with
  | 0 => none
  | fuel + 1 => do
    let (assignment, rest) ← assignment? fuel depth text
    match skipBlanks rest with
    | '\x7d' :: rest => return ([assignment], rest)
    | ',' :: rest =>
      let (more, rest) ← assignments? fuel depth rest
      return (assignment :: more, rest)
    | _ => none

/-- Reads a key, an equals sign and a value. -/
def assignment? (fuel depth : Nat) (text : List Char) : Option (Assignment × List Char) :=
  match fuel with
  | 0 => none
  | fuel + 1 => do
    let ((before, key), rest) ← key? text
    match rest with
    | '=' :: rest =>
      let (value, rest) ← value? fuel depth (skipBlanks rest)
      return (⟨before, key, value⟩, rest)
    | _ => none

end

/-- Steps that reading a text takes at most. -/
def stepsFor (text : List Char) : Nat := 3 * text.length + 3

/-- Reads a header with its brackets. -/
def header? (text : List Char) : Option (Header × List Char) :=
  match text with
  | '[' :: '[' :: rest =>
    match key? rest with
    | some ((before, key), ']' :: ']' :: rest) => some (.element before key, rest)
    | _ => none
  | '[' :: rest =>
    match key? rest with
    | some ((before, key), ']' :: rest) => some (.table before key, rest)
    | _ => none
  | _ => none

/-- Reads the lines of a document: the assignments up to the next header, then the sections. -/
def lines? (fuel : Nat) (text : List Char) : Option (List Assignment × List Section) :=
  match fuel with
  | 0 => none
  | fuel + 1 =>
    match skipBlanks text with
    | [] => some ([], [])
    | c :: rest =>
      if c = '\n' ∨ c = '\r' ∨ c = '#' then do lines? fuel (← lineEnd? (c :: rest))
      else if c = '[' then do
        let (header, rest) ← header? (c :: rest)
        let (assignments, sections) ← lines? fuel (← lineEnd? rest)
        return ([], ⟨header, assignments⟩ :: sections)
      else do
        let (assignment, rest) ← assignment? (stepsFor text) 0 (c :: rest)
        let (assignments, sections) ← lines? fuel (← lineEnd? rest)
        return (assignment :: assignments, sections)

/-- Adds a section. A table that its own header or a dotted key named before cannot be named again,
one that other headers imply can; an array of tables takes a further table. -/
def addSection (entries : Entries) (part : Section) : Option Entries :=
  match part.header with
  | .table before key =>
    alterHeaded (fun
      | none => (assignAll part.assignments []).map (.table .headed)
      | some (.table .implied inner) => (assignAll part.assignments inner).map (.table .headed)
      | some _ => none) before key entries
  | .element before key => do
    let element ← assignAll part.assignments []
    alterHeaded (fun
      | none => some (.tables [element])
      | some (.tables elements) => some (.tables (elements ++ [element]))
      | some _ => none) before key entries

/-- The text without the mark that tells the byte order. -/
def skipByteOrderMark (text : List Char) : List Char :=
  match text with
  | '\uFEFF' :: rest => rest
  | _ => text

/-- The table that a document stands for; none for a malformed document. -/
def parse? (text : String) : Option Entries := do
  let text := skipByteOrderMark text.toList
  let (assignments, sections) ← lines? (text.length + 1) text
  sections.foldlM addSection (← assignAll assignments [])

end AutoItDocs.Toml
