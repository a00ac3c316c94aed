import AutoItDocs.Text.Width
/-!
Positions in a script. Editors count lines and, within a line, units of UTF-16; everything else here
counts bytes of UTF-8 from the start of the text. A line index keeps the line starts of a text, so
that a line is found by bisection.
-/
namespace AutoItDocs

structure Position where
  line : Nat
  /-- Column in units of UTF-16. -/
  character : Nat
  deriving DecidableEq, Repr, Inhabited

structure Range where
  start : Position
  stop : Position
  deriving DecidableEq, Repr, Inhabited

/-- Offsets of the characters that follow a line feed, where the text starts at offset `start`. -/
def startsAfterFeeds (start : Nat) : List Char → List Nat
  | [] => []
  | c :: rest =>
    let next := start + c.utf8Size
    if c = '\n' then next :: startsAfterFeeds next rest else startsAfterFeeds next rest

/-- Offsets at which the lines of a text start. A text has one line more than line feeds. -/
def lineStarts (text : List Char) : List Nat := 0 :: startsAfterFeeds 0 text

structure LineIndex where
  text : List Char
  starts : Array Nat
  starts_eq : starts = (lineStarts text).toArray

namespace LineIndex

def ofText (text : List Char) : LineIndex := ⟨text, _, rfl⟩

instance : Inhabited LineIndex := ⟨ofText []⟩

/-- The first index from `low` up to `high` whose entry exceeds `offset`, or `high`, in a sorted
array. -/
def bisect (starts : Array Nat) (offset : Nat) (low high : Nat) : Nat :=
  if low < high then
    let middle := (low + high) / 2
    if starts.getD middle 0 ≤ offset then bisect starts offset (middle + 1) high
    else bisect starts offset low middle
  else low
termination_by high - low
decreasing_by all_goals omega

/-- The line with the last start that does not exceed `offset`. -/
def lineOf (index : LineIndex) (offset : Nat) : Nat :=
  bisect index.starts offset 0 index.starts.size - 1

/-- Offsets at which a line starts and ends, its line feed left out. -/
def lineBounds? (index : LineIndex) (line : Nat) : Option (Nat × Nat) :=
  index.starts[line]?.map fun start =>
    (start, match index.starts[line + 1]? with
      | some next => next - 1
      | none => Text.byteLength index.text)

/-- The text from offset `start` up to the end of its line. -/
def lineFrom (index : LineIndex) (start : Nat) : List Char :=
  (Text.dropBytes start index.text).takeWhile (· ≠ '\n')

/-- The position of an offset. One inside a character stands for the end of that character, one past
the end for the end of the text. -/
def positionAt (index : LineIndex) (offset : Nat) : Position :=
  let line := index.lineOf offset
  let start := index.starts.getD line 0
  ⟨line, Text.unitLength (Text.takeBytes (offset - start) (index.lineFrom start))⟩

/-- The offset of a position. A column inside a character stands for the end of that character, one
past the end of the line for the end of the line. -/
def offsetAt? (index : LineIndex) (position : Position) : Option Nat :=
  (index.lineBounds? position.line).map fun (start, stop) =>
    let line := Text.takeBytes (stop - start) (Text.dropBytes start index.text)
    start + Text.byteLength (Text.takeUnits position.character line)

def rangeOf (index : LineIndex) (start stop : Nat) : Range :=
  ⟨index.positionAt start, index.positionAt stop⟩

end LineIndex

end AutoItDocs
