import AutoItDocs.Uri.Host
import AutoItDocs.Uri.Path
import AutoItDocs.Files.Path
/-!
Addresses of documents and directories. Reading an address brings it into a normal form, so that two
spellings of one address are equal values: the scheme and the host are in lowercase, dots in the
path are resolved, and characters that need it are percent-encoded.
-/
namespace AutoItDocs

structure Uri where
  scheme : String
  /-- What stands before the host and an at sign. -/
  credentials : String := ""
  host : Option Uri.Host := none
  portNumber : Option Nat := none
  path : Uri.Path
  query : Option String := none
  fragment : Option String := none
  deriving DecidableEq, Repr, Inhabited

namespace Uri

/-- Schemes whose addresses have a host and a path, with the `portNumber` that need not be
written. -/
def hierarchicalSchemes : List (String × Nat) :=
  [("http", 80), ("https", 443), ("ws", 80), ("wss", 443), ("ftp", 21)]

def isFile (scheme : String) : Bool := scheme == "file"

def isHierarchical (scheme : String) : Bool :=
  isFile scheme || hierarchicalSchemes.any (·.1 == scheme)

/-- Backslashes count as slashes in the addresses of some schemes. -/
def isSlash (scheme : String) (c : Char) : Bool := c == '/' || (isHierarchical scheme && c == '\\')

/-- The text without controls and blanks around it and without tabs and line ends anywhere. -/
def clean (text : List Char) : List Char :=
  let outer := fun c : Char => decide (c.toNat ≤ 0x20)
  let start := text.dropWhile outer
  ((start.reverse.dropWhile outer).reverse).filter fun c => c ≠ '\t' ∧ c ≠ '\n' ∧ c ≠ '\r'

def isSchemeChar (c : Char) : Bool := c.isAlphanum || c == '+' || c == '-' || c == '.'

/-- The scheme in lowercase, and what follows its colon. -/
def scheme? (text : List Char) : Option (String × List Char) :=
  match text.takeWhile isSchemeChar, text.dropWhile isSchemeChar with
  | c :: name, ':' :: rest =>
    if c.isAlpha then some (String.ofList ((c :: name).map Char.toLower), rest) else none
  | _, _ => none

/-- The text up to a character, and what follows the character if it is there. -/
def cut (mark : Char) (text : List Char) : List Char × Option (List Char) :=
  match text.dropWhile (· ≠ mark) with
  | [] => (text, none)
  | _ :: rest => (text.takeWhile (· ≠ mark), some rest)

/-- The text without a slash in front. -/
def afterSlash (scheme : String) (text : List Char) : List Char :=
  match text with
  | c :: rest => if isSlash scheme c then rest else text
  | [] => []

/-- A walk along a text, from the start of the path. -/
def walk (scheme : String) (text : List Char) : Walk :=
  Walk.followAll (isFile scheme) {} (Text.pieces (isSlash scheme) text)

/-- The path that a text stands for. Only the paths of some schemes may be empty. -/
def pathOf (scheme : String) (text : List Char) : Path :=
  if text.isEmpty && !isHierarchical scheme then .parts []
  else .parts ((walk scheme (afterSlash scheme text)).parts (isFile scheme))

/-- The host in front of a text, which ends at a colon that is not in brackets, and what is left. -/
def splitHost (inBrackets : Bool) : List Char → List Char × List Char
  | [] => ([], [])
  | c :: rest =>
    if c = ':' ∧ !inBrackets then ([], c :: rest)
    else
      let (host, after) := splitHost (c = '[' || (inBrackets && c ≠ ']')) rest
      (c :: host, after)

/-- Reads the `portNumber` after a host; one that need not be written is left out. A backslash ends
it and begins the path. -/
def portNumber? (scheme : String) : List Char → Option (Option Nat × List Char)
  | ':' :: rest =>
    let digits := rest.takeWhile Char.isDigit
    let after := rest.dropWhile Char.isDigit
    let number := Text.decimalNumber digits
    if 65535 < number ∨ !after.head?.all (· == '\\') then none
    else if digits.isEmpty ∨ hierarchicalSchemes.contains (scheme, number) then some (none, after)
    else some (some number, after)
  | text => some (none, text)

/-- Who is named before the last at sign, and what follows it. -/
def splitCredentials (text : List Char) : Option (List Char) × List Char :=
  match cut '@' text.reverse with
  | (after, some before) => (some before.reverse, after.reverse)
  | (_, none) => (none, text)

/-- User and password, encoded; nothing when both are empty. -/
def credentialsOf (text : List Char) : String :=
  let (user, password) := cut ':' text
  let encode := percentEncode encodesInCredentials
  let password := encode (password.getD [])
  String.ofList (encode user ++ if password.isEmpty then [] else ':' :: password)

/-- An address with a host: `text` is what follows the two slashes, and `isAll` says that no query
and no fragment follow it. Only a scheme without hierarchy may have an empty host, and that neither
has a `portNumber` nor credentials. -/
def withHost? (scheme : String) (text : List Char) (isAll : Bool) : Option Uri := do
  let authority := text.takeWhile (!isSlash scheme ·)
  let rest := text.dropWhile (!isSlash scheme ·)
  let (named, place) := splitCredentials authority
  let credentials := credentialsOf (named.getD [])
  let (hostText, after) := splitHost false place
  let (portNumber, start) ← portNumber? scheme after
  let path := pathOf scheme (start ++ rest)
  if hostText.isEmpty then
    let isCutShort := named = some [] ∧ ¬(rest.isEmpty ∧ isAll)
    if isHierarchical scheme ∨ !after.isEmpty ∨ credentials ≠ "" ∨ isCutShort then none
    else return { scheme, host := some (.name ""), path }
  else
    let host ← if isHierarchical scheme then Host.domain? hostText else Host.verbatim? hostText
    return { scheme, credentials, host := some host, portNumber, path }

/-- A path of this machine in an address of a file, with all slashes that stand in front of it. -/
def localFile (text : List Char) : Uri :=
  { scheme := "file", path := .parts ((walk "file" text).parts true) }

/-- An address of a file: the host is optional, and the name of this machine is left out. A path
that begins with a drive has no host. -/
def fileAddress? (text : List Char) : Option Uri :=
  match text with
  | a :: b :: rest =>
    if isSlash "file" a && isSlash "file" b then
      let name := rest.takeWhile (!isSlash "file" ·)
      let after := rest.dropWhile (!isSlash "file" ·)
      if isDrive name then some (localFile rest)
      else if name.isEmpty then some (localFile after)
      else
        (Host.domain? name).map fun host =>
          let way := walk "file" (afterSlash "file" after)
          if host = .name "localhost" then localFile after
          else
            { scheme := "file"
              host := if way.namesDrive then none else some host
              path := .parts (way.parts true) }
    else some (localFile (afterSlash "file" text))
  | _ => some (localFile (afterSlash "file" text))

/-- An address without its query and fragment: `text` is what follows the colon, and `isAll` says
that neither of them follows. -/
def address? (scheme : String) (text : List Char) (isAll : Bool) : Option Uri :=
  if isFile scheme then fileAddress? text
  else if isHierarchical scheme then withHost? scheme (text.dropWhile (isSlash scheme)) isAll
  else
    match text with
    | '/' :: '/' :: rest => withHost? scheme rest isAll
    | '/' :: _ => some { scheme, path := pathOf scheme text }
    | _ => some { scheme, path := .plain (String.ofList (percentEncode isControl text)) }

/-- The address that a text stands for. A text without a scheme is no address. -/
def parse? (text : String) : Option Uri := do
  let (scheme, rest) ← scheme? (clean text.toList)
  let (rest, fragment) := cut '#' rest
  let (rest, query) := cut '?' rest
  let address ← address? scheme rest (query.isNone && fragment.isNone)
  let encodesQuery := fun c => encodesInQuery c || (isHierarchical scheme && c == '\'')
  return { address with
    query := query.map fun q => String.ofList (percentEncode encodesQuery q)
    fragment := fragment.map fun f => String.ofList (percentEncode encodesInFragment f) }

/-- The path of a directory or a file on this machine. Only a path of parts gives one, and only
without the name of another machine. -/
def filePath? (u : Uri) : Option AutoItDocs.Path :=
  match u.path with
  | .plain _ => none
  | .parts [] => none
  | .parts parts =>
    if u.host.all fun host => host = .name "" ∨ host = .name "localhost" then
      let text := String.join (parts.map fun part => "/" ++ decodeName part)
      let endsInDrive := isDrive (text.toList.drop (text.length - 2))
      some ⟨if 2 < text.length ∧ endsInDrive then text ++ "/" else text⟩
    else none

end Uri

end AutoItDocs
