import AutoItDocs.Files.Path
/-!
File trees as values: directories, files and what they hold. A path is followed part by part from
the root or from the working directory.
-/
namespace AutoItDocs

inductive FileNode where
  | file (content : ByteArray)
  | directory (entries : List (String × FileNode))
  deriving Inhabited

structure FileTree where
  /-- The entries of the root directory. -/
  entries : List (String × FileNode) := []
  /-- Names of the directories from the root to the working directory. -/
  workingDirectory : List String := []
  deriving Inhabited

/-- Why a file cannot be read. -/
inductive FileError where
  | notFound
  | notADirectory
  | isADirectory
  | notText
  deriving DecidableEq, Repr, Inhabited

def FileError.message : FileError → String
  | .notFound => "No such file or directory (os error 2)"
  | .notADirectory => "Not a directory (os error 20)"
  | .isADirectory => "Is a directory (os error 21)"
  | .notText => "stream did not contain valid UTF-8"

namespace FileNode

def child? (entries : List (String × FileNode)) (name : String) : Option FileNode :=
  (entries.find? (·.1 = name)).map (·.2)

def isDirectory : FileNode → Bool
  | .directory _ => true
  | .file _ => false

/-- Follows parts of a path from a directory, `above` being the directories above it. The directory
above the root is the root. -/
def follow (above : List (List (String × FileNode))) (here : FileNode) :
    List String → Except FileError FileNode
  | [] => .ok here
  | part :: rest =>
    match here with
    | .file _ => .error .notADirectory
    | .directory entries =>
      if part = "" ∨ part = "." then follow above (.directory entries) rest
      else if part = ".." then
        match above with
        | [] => follow [] (.directory entries) rest
        | parent :: further => follow further (.directory parent) rest
      else
        match child? entries part with
        | none => .error .notFound
        | some child => follow (entries :: above) child rest

/-- The entries with a node put under a path of names, directories made on the way. A node that is
no directory stays as it is where one is needed, and a directory that is there keeps its entries. -/
def place (node : FileNode) : List String → List (String × FileNode) → List (String × FileNode)
  | [], entries => entries
  | [name], entries =>
    match node, child? entries name with
    | .directory [], some (.directory _) => entries
    | _, _ => put name node entries
  | name :: rest, entries =>
    match child? entries name with
    | some (.directory inner) => put name (.directory (place node rest inner)) entries
    | some (.file _) => entries
    | none => put name (.directory (place node rest [])) entries
where
  put (name : String) (node : FileNode) (entries : List (String × FileNode)) :=
    if entries.any (·.1 = name) then
      entries.map fun entry => if entry.1 = name then (name, node) else entry
    else entries ++ [(name, node)]

end FileNode

namespace FileTree

def empty : FileTree := {}

/-- What a path leads to. -/
def find (t : FileTree) (p : Path) : Except FileError FileNode :=
  if p.text = "" then .error .notFound
  else if p.isAbsolute then FileNode.follow [] (.directory t.entries) p.parts
  else FileNode.follow [] (.directory t.entries) (t.workingDirectory ++ p.parts)

def isFile (t : FileTree) (p : Path) : Bool :=
  match t.find p with
  | .ok (.file _) => true
  | _ => false

/-- The text of a file. -/
def readText (t : FileTree) (p : Path) : Except FileError String :=
  match t.find p with
  | .error e => .error e
  | .ok (.directory _) => .error .isADirectory
  | .ok (.file content) =>
    match String.fromUTF8? content with
    | some text => .ok text
    | none => .error .notText

/-- Paths of the directories right below a directory; none for anything else. -/
def childDirectories (t : FileTree) (p : Path) : List Path :=
  match t.find p with
  | .ok (.directory entries) => (entries.filter (·.2.isDirectory)).map fun entry => p.join entry.1
  | _ => []

/-- The names that a path goes through, without the steps that it takes back. -/
def namesOf (p : Path) : List String :=
  p.parts.foldl (fun names part =>
    if part = "" ∨ part = "." then names
    else if part = ".." then names.dropLast
    else names ++ [part]) []

/-- The tree with a node at a path, the directories above it made where they are missing. -/
def place (t : FileTree) (p : Path) (node : FileNode) : FileTree :=
  let names := if p.isAbsolute then namesOf p else t.workingDirectory ++ namesOf p
  { t with entries := FileNode.place node names t.entries }

end FileTree

end AutoItDocs
