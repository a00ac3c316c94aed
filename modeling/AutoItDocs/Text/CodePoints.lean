import AutoItDocs.Text.Digits
import AutoItDocs.Text.Lines
/-!
Properties of characters, written as lines of text. A line holds entries between blanks; an entry
names code points in hexadecimal, one or a range of them, and what it says about them.
-/
namespace AutoItDocs.Text

def coversCode (ranges : List (Nat × Nat)) (code : Nat) : Bool :=
  ranges.any fun (first, last) => first ≤ code && code ≤ last

/-- The code point that hexadecimal digits stand for. -/
def codePoint (digits : List Char) : Nat := (hexNumber? digits).getD 0

/-- The text before a mark, and what follows the mark; all of the text where there is none. -/
def cutAt (mark : Char) (text : List Char) : List Char × List Char :=
  (text.takeWhile (· ≠ mark), (text.dropWhile (· ≠ mark)).drop 1)

/-- A range `41-5A`, or a single code point. -/
def readRange (text : List Char) : Nat × Nat :=
  match cutAt '-' text with
  | (code, []) => (codePoint code, codePoint code)
  | (first, last) => (codePoint first, codePoint last)

def entries (lines : List String) : List (List Char) :=
  lines.flatMap fun line => pieces (· == ' ') line.toList

/-- Ranges, as in `41-5A 5F`. -/
def readRanges (lines : List String) : List (Nat × Nat) := (entries lines).map readRange

/-- Numbers with the ranges that have them, as in `E6:300-314,31A`. -/
def readClasses (lines : List String) : List (Nat × List (Nat × Nat)) :=
  (entries lines).map fun entry =>
    let (number, ranges) := cutAt ':' entry
    (codePoint number, (pieces (· == ',') ranges).map readRange)

/-- One entry of `readImages`. -/
def readImage (entry : List Char) : List (Nat × List Nat) :=
  let (codes, images) := cutAt '>' entry
  let (first, last) := readRange codes
  if first < last then
    (List.range (last - first + 1)).map fun i => (first + i, [codePoint images + i])
  else
    (pieces (· == ',') images).mapIdx fun i image =>
      (first + i, (pieces (· == '.') image).map codePoint)

/-- Code points with the code points that they stand for. In `41-43>61` a range stands for another
one, and in `C0>41.300,61` consecutive code points stand for sequences. -/
def readImages (lines : List String) : List (Nat × List Nat) := (entries lines).flatMap readImage

/-- A range is read as it is written. -/
example : readRanges ["41-5A 5F"] = [(0x41, 0x5A), (0x5F, 0x5F)] := by decide

/-- Images of a range and of a sequence of code points. -/
example : readImages ["41-42>61", "C0>41.300,61"] =
    [(0x41, [0x61]), (0x42, [0x62]), (0xC0, [0x41, 0x300]), (0xC1, [0x61])] := by decide

end AutoItDocs.Text
