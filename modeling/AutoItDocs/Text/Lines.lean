/-!
Pieces of a text between breaks, and the lines of a text.
-/
namespace AutoItDocs.Text

/-- The pieces of a text between the characters that break it: the first, then the others. -/
def split (isBreak : Char → Bool) : List Char → List Char × List (List Char)
  | [] => ([], [])
  | c :: rest =>
    let (piece, more) := split isBreak rest
    if isBreak c then ([], piece :: more) else (c :: piece, more)

/-- The pieces of a text, of which there is at least one. -/
def pieces (isBreak : Char → Bool) (text : List Char) : List (List Char) :=
  let (first, more) := split isBreak text
  first :: more

/-- A line without the carriage return before its line feed. -/
def dropReturn (line : List Char) : List Char :=
  if line.getLast? = some '\r' then line.dropLast else line

/-- The lines of a text, without the line feeds that end them. A line feed at the end of the text
starts no further line. -/
def lines (text : List Char) : List (List Char) :=
  let all := pieces (· == '\n') text
  let ended := all.dropLast.map dropReturn
  match all.getLast? with
  | some (c :: last) => ended ++ [c :: last]
  | _ => ended

end AutoItDocs.Text
