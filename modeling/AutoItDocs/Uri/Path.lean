import AutoItDocs.Text.Lines
import AutoItDocs.Uri.Percent
/-!
Paths in addresses. Dots are resolved part by part, and the letter of a drive, as in `C:`, is never
left by dots. In addresses of files the first part may be a drive whatever the host is.
-/
namespace AutoItDocs.Uri

inductive Path where
  /-- A path that is a text without parts, as in `untitled:1`. -/
  | plain (text : String)
  /-- The parts between slashes, the first of which stands after a slash. -/
  | parts (parts : List String)
  deriving DecidableEq, Repr, Inhabited

/-- A dot may be written as a percent-encoded byte. -/
def plainDots (piece : List Char) : List Char :=
  match piece with
  | '%' :: '2' :: e :: rest => if e = 'e' ∨ e = 'E' then '.' :: plainDots rest else piece
  | '.' :: rest => '.' :: plainDots rest
  | _ => piece

/-- A letter with a colon or a bar names a drive. -/
def isDrive (piece : List Char) : Bool :=
  match piece with
  | [c, mark] => c.isAlpha && (mark == ':' || mark == '|')
  | _ => false

/-- A walk along a path: the parts so far, the last one first, and whether the first of them named a
drive. -/
structure Walk where
  above : List String := []
  namesDrive : Bool := false

namespace Walk

/-- Goes up by one part, but not out of a drive. -/
def up (w : Walk) : Walk :=
  match w.above with
  | part :: rest => if isDrive part.toList then w else { w with above := rest }
  | [] => w

def down (w : Walk) (part : List Char) : Walk := { w with above := String.ofList part :: w.above }

/-- The first part in an address of a file. A drive is written with a colon. -/
def enter (w : Walk) (part : List Char) : Walk :=
  if isDrive part then { w.down (part.take 1 ++ [':']) with namesDrive := true } else w.down part

/-- Follows one piece of a path. A path that ends in dots ends in a slash. -/
def follow (isFile : Bool) (w : Walk) (piece : List Char) (isLast : Bool) : Walk :=
  let dots := plainDots piece
  if dots = ['.', '.'] then if isLast then w.up.down [] else w.up
  else if dots = ['.'] then if isLast then w.down [] else w
  else
    let part := percentEncode encodesInPath piece
    if isFile && w.above.isEmpty then w.enter part else w.down part

def followAll (isFile : Bool) (w : Walk) : List (List Char) → Walk
  | [] => w
  | piece :: rest => followAll isFile (w.follow isFile piece rest.isEmpty) rest

/-- The parts of the path. In an address of a file empty parts at the start do not count. -/
def parts (isFile : Bool) (w : Walk) : List String :=
  let all := w.above.reverse
  if isFile then
    match all.dropWhile (·.isEmpty) with
    | [] => [""]
    | kept => kept
  else all

end Walk

end AutoItDocs.Uri
