import AutoItDocs.Text.Lines
/-!
Paths as they are written, with parts between slashes. Going to the parent and joining work on the
text, so that a path is shown the way it was given.
-/
namespace AutoItDocs

structure Path where
  text : String
  deriving DecidableEq, Repr, Inhabited

namespace Path

/-- The parts of a path as they are written, empty ones included. -/
def parts (p : Path) : List String :=
  (Text.pieces (· == '/') p.text.toList).map String.ofList

def isAbsolute (p : Path) : Bool := p.text.startsWith "/"

/-- `child` under `p`; an absolute child stands for itself. -/
def join (p : Path) (child : String) : Path :=
  if child.startsWith "/" then ⟨child⟩
  else if p.text = "" ∨ p.text.endsWith "/" then ⟨p.text ++ child⟩
  else ⟨p.text ++ "/" ++ child⟩

/-- Leaves out what adds nothing at the end of a path, given as its parts from the last one: empty
parts, and dots unless a dot starts the path. -/
def trimParts : List String → List String
  | [] => []
  | "" :: rest => trimParts rest
  | ["."] => ["."]
  | "." :: rest => trimParts rest
  | parts => parts

/-- The parts below the root of an absolute path, or all parts of a relative one, from the last. A
leading dot is a part of relative paths only. -/
def bodyBackwards (p : Path) : List String :=
  if p.isAbsolute then
    let body := trimParts (p.parts.drop 1).reverse
    if body = ["."] then [] else body
  else trimParts p.parts.reverse

def ofBody (absolute : Bool) (backwards : List String) : Path :=
  let body := "/".intercalate backwards.reverse
  ⟨if absolute then "/" ++ body else body⟩

/-- The path without its last part; the root and the empty path have no parent. -/
def parent? (p : Path) : Option Path :=
  match p.bodyBackwards with
  | [] => none
  | _ :: rest =>
    let above := trimParts rest
    some (ofBody p.isAbsolute (if p.isAbsolute ∧ above = ["."] then [] else above))

/-- The last part of a path, unless it stands for a directory above or for the directory itself. -/
def fileName? (p : Path) : Option String :=
  match p.bodyBackwards with
  | [] => none
  | name :: _ => if name = ".." ∨ name = "." then none else some name

/-- The file name up to its last dot; a dot in front does not count. -/
def stem? (p : Path) : Option String :=
  p.fileName?.map fun name =>
    let backwards := name.toList.reverse
    match backwards.dropWhile (· ≠ '.') with
    | [] => name
    | ['.'] => name
    | _ :: rest => String.ofList rest.reverse

/-- A path and the paths above it, nearest first, at most `count` above it. -/
def selfAndAbove (count : Nat) (p : Path) : List Path :=
  match count with
  | 0 => [p]
  | count + 1 =>
    match p.parent? with
    | some above => p :: selfAndAbove count above
    | none => [p]

/-- A path and all paths above it, nearest first. A path has fewer parents than parts. -/
def ancestors (p : Path) : List Path := selfAndAbove p.parts.length p

end Path

end AutoItDocs
