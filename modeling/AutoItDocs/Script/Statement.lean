import AutoItDocs.Text.Width
import AutoItDocs.Text.Blank
import AutoItDocs.Text.Lines
/-!
Logical statements. A line that ends in an underscore after a blank is continued on the next line,
so the statement around an offset may have started some lines above.
-/
namespace AutoItDocs.Statement

/-- A line, read backwards, that is continued on the next one: apart from blanks at its end it is an
underscore, or ends in an underscore after a space or a tab. -/
def isContinued (backwards : List Char) : Bool :=
  match Text.trimStart backwards with
  | ['_'] => true
  | '_' :: c :: _ => c == ' ' || c == '\t'
  | _ => false

/-- The lines above the end of a text, nearest first and each read backwards. -/
def linesAbove (before : List Char) : List (List Char) :=
  (Text.split (· == '\n') before.reverse).2

/-- Bytes of some lines, with a line feed for each. -/
def bytesOf : List (List Char) → Nat
  | [] => 0
  | line :: rest => Text.byteLength line + 1 + bytesOf rest

/-- Offset at which the statement around `offset` starts: the start of its line, or of the first of
the continued lines right above it. -/
def start (text : List Char) (offset : Nat) : Nat :=
  bytesOf ((linesAbove (Text.takeBytes offset text)).dropWhile isContinued)

/-- The text of the statement around `offset`, up to `offset`. -/
def upTo (text : List Char) (offset : Nat) : List Char :=
  Text.dropBytes (start text offset) (Text.takeBytes offset text)

end AutoItDocs.Statement
