import AutoItDocs.Script.Word
import AutoItDocs.Text.Blank
/-!
The call that is being typed at the end of a text. The text is read once, character by character;
brackets and commas count only in code, which is what stands outside string literals and comments.
-/
namespace AutoItDocs.CallContext

/-- Where the reader is. A doubled quote in a literal closes the literal and opens it again, so it
stays inside. -/
inductive Mode where
  | code
  /-- In a string literal that the quote closes. -/
  | literal (quote : Char)
  /-- In a comment, up to the line feed. -/
  | comment
  deriving DecidableEq, Repr, Inhabited

/-- An open bracket: the name that is called, if any, and the commas seen directly inside, counted
modulo `UInt32.size`. -/
structure Frame where
  callee : Option (List Char)
  commas : UInt32
  deriving DecidableEq, Repr, Inhabited

structure Reader where
  mode : Mode := .code
  /-- Open brackets, innermost first. -/
  frames : List Frame := []
  /-- The text read so far, backwards. -/
  before : List Char := []
  deriving DecidableEq, Repr, Inhabited

/-- The name that ends right before a bracket, apart from blanks. The text is given backwards. What
follows a sigil is no function name. -/
def calleeBefore? (before : List Char) : Option (List Char) :=
  let trimmed := Text.trimStart before
  let name := trimmed.takeWhile isNameChar
  let sigil := match trimmed.dropWhile isNameChar with
    | [] => false
    | c :: _ => c == '$' || c == '@'
  if name.isEmpty || sigil then none else some name.reverse

/-- Counts a comma for the innermost open bracket. -/
def countComma : List Frame → List Frame
  | [] => []
  | frame :: outer => { frame with commas := frame.commas + 1 } :: outer

def stepFrames (before : List Char) (frames : List Frame) (c : Char) : List Frame :=
  if c = '(' then ⟨calleeBefore? before, 0⟩ :: frames
  else if c = '[' then ⟨none, 0⟩ :: frames
  else if c = ')' ∨ c = ']' then frames.tail
  else if c = ',' then countComma frames
  else frames

def stepMode (mode : Mode) (c : Char) : Mode :=
  match mode with
  | .code => if c = '"' ∨ c = '\'' then .literal c else if c = ';' then .comment else .code
  | .literal quote => if c = quote then .code else .literal quote
  | .comment => if c = '\n' then .code else .comment

def step (r : Reader) (c : Char) : Reader where
  mode := stepMode r.mode c
  frames := if r.mode = .code then stepFrames r.before r.frames c else r.frames
  before := c :: r.before

/-- Reads on from where a reader is. -/
def readOn (r : Reader) (text : List Char) : Reader := text.foldl step r

def read (text : List Char) : Reader := readOn {} text

theorem read_append (a b : List Char) : read (a ++ b) = readOn (read a) b :=
  List.foldl_append

/-- The innermost open bracket with a callee, and its commas. -/
def innermost? : List Frame → Option (List Char × UInt32)
  | [] => none
  | ⟨some name, commas⟩ :: _ => some (name, commas)
  | ⟨none, _⟩ :: outer => innermost? outer

/-- The call that is open at the end of a text and the index of the argument typed there; none when
the text ends in a string literal. -/
def find? (text : List Char) : Option (List Char × UInt32) :=
  let r := read text
  match r.mode with
  | .literal _ => none
  | _ => innermost? r.frames

end AutoItDocs.CallContext
