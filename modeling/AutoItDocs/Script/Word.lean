import AutoItDocs.Text.Width
/-!
Identifiers of a script. A word is a name that starts with a letter or an underscore, together with
the sigil right before it; the sigil tells what the name refers to. Words are read from the start of
a line, each from where the one before it ended.
-/
namespace AutoItDocs

inductive WordKind where
  /-- A bare name: a function or a keyword. -/
  | function
  /-- A name after `$`. -/
  | variable
  /-- A name after `@`. -/
  | systemMacro
  deriving DecidableEq, Repr, Inhabited

structure Word where
  /-- The name without its sigil. -/
  name : List Char
  /-- Offset of the first character, the sigil included. -/
  start : Nat
  stop : Nat
  kind : WordKind
  deriving DecidableEq, Repr, Inhabited

/-- An offset that does not lie between two characters. -/
inductive OffsetError where
  | insideCharacter
  deriving DecidableEq, Repr, Inhabited

def isNameStart (c : Char) : Bool := c.isAlpha || c == '_'

def isNameChar (c : Char) : Bool := c.isAlphanum || c == '_'

def WordKind.ofSigil? (c : Char) : Option WordKind :=
  if c = '$' then some .variable else if c = '@' then some .systemMacro else none

namespace Word

/-- The name that a text starts with. -/
def leadingName? : List Char → Option (List Char)
  | [] => none
  | c :: rest => if isNameStart c then some (c :: rest.takeWhile isNameChar) else none

/-- The word that a text starts with, when the text starts at offset `start`. -/
def leading? (start : Nat) (text : List Char) : Option Word :=
  match leadingName? text with
  | some name => some ⟨name, start, start + name.length, .function⟩
  | none =>
    match text with
    | [] => none
    | c :: rest =>
      match WordKind.ofSigil? c, leadingName? rest with
      | some kind, some name => some ⟨name, start, start + 1 + name.length, kind⟩
      | _, _ => none

/-- The words of a text that starts at offset `start`. A word takes as many bytes as characters. -/
def scan (start : Nat) (text : List Char) : List Word :=
  match text with
  | [] => []
  | c :: rest =>
    match leading? start (c :: rest) with
    | some word => word :: scan word.stop (rest.drop (word.stop - start - 1))
    | none => scan (start + c.utf8Size) rest
termination_by text.length
decreasing_by all_goals (simp only [List.length_cons, List.length_drop]; omega)

/-- The cursor is at the word: within it, or right before or after it. -/
def touches (word : Word) (offset : Nat) : Bool := word.start ≤ offset && offset ≤ word.stop

/-- The word at an offset; of two words that touch it, the one on the left. -/
def at? (text : List Char) (offset : Nat) : Except OffsetError (Option Word) :=
  if Text.byteLength text < offset then .ok none
  else if ¬ Text.IsBoundary text offset then .error .insideCharacter
  else
    let before := (Text.takeBytes offset text).reverse.takeWhile (· ≠ '\n')
    let after := (Text.dropBytes offset text).takeWhile (· ≠ '\n')
    let lineStart := offset - Text.byteLength before
    .ok ((scan lineStart (before.reverse ++ after)).find? (·.touches offset))

end Word

end AutoItDocs
