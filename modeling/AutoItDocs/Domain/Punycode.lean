import AutoItDocs.Text.Digits
/-!
Punycode: a label is written in ASCII as its ASCII characters and the places at which the others are
inserted. Insertions are counted off by a cursor that passes over all places for all code points in
order, so that each needs only its distance from the one before.
-/
namespace AutoItDocs.Domain.Punycode

/-- Where the next insertion is looked for, with the number of characters that are there. -/
structure Cursor where
  code : Nat := 0x80
  place : Nat := 0
  count : Nat
  bias : Nat := 72

/-- Scales a distance down by steps, and counts the steps in units of 36. -/
def scaled (steps distance : Nat) : Nat :=
  if 455 < distance then scaled (steps + 36) (distance / 35)
  else steps + 36 * distance / (distance + 38)
termination_by distance

namespace Cursor

/-- The places at which a character can be inserted. -/
def places (c : Cursor) : Nat := c.count + 1

/-- The cursor after an insertion at a distance; distances to come are expected to be like it. The
first insertion is the only one at which the cursor is at the start. -/
def insert (c : Cursor) (distance : Nat) : Cursor :=
  let states := c.place + distance
  let damped := if c.place = 0 then distance / 700 else distance / 2
  { code := c.code + states / c.places
    place := states % c.places + 1
    count := c.count + 1
    bias := scaled 0 (damped + damped / c.places) }

/-- The distance to an insertion of a code point at a place. -/
def distance (c : Cursor) (code place : Nat) : Nat := (code - c.code) * c.places + place - c.place

end Cursor

/-- A digit below the threshold ends a number. -/
def threshold (bias position : Nat) : Nat := max 1 (min 26 (position - bias))

theorem threshold_pos (bias position : Nat) : 0 < threshold bias position := by
  unfold threshold; omega

def digitOf (value : Nat) : Char :=
  if value < 26 then Char.ofNat ('a'.toNat + value) else Char.ofNat ('0'.toNat + (value - 26))

def valueOf? (c : Char) : Option Nat :=
  if c.isLower then some (c.toNat - 'a'.toNat)
  else if c.isUpper then some (c.toNat - 'A'.toNat)
  else if c.isDigit then some (c.toNat - '0'.toNat + 26)
  else none

/-- The digits of a number, the lowest first, from a position on. -/
def digits (bias position number : Nat) : List Char :=
  let limit := threshold bias position
  if number < limit then [digitOf number]
  else
    digitOf (limit + (number - limit) % (36 - limit)) ::
      digits bias (position + 36) ((number - limit) / (36 - limit))
termination_by number
decreasing_by
  have := threshold_pos bias position
  exact Nat.lt_of_le_of_lt (Nat.div_le_self _ _) (by omega)

/-- Reads a number whose digit at `position` counts `weight`-fold, with the text after it. -/
def number? (bias position weight : Nat) : List Char → Option (Nat × List Char)
  | [] => none
  | c :: rest => do
    let value ← valueOf? c
    let limit := threshold bias position
    if value < limit then return (weight * value, rest)
    let (more, rest) ← number? bias (position + 36) (weight * (36 - limit)) rest
    return (weight * value + more, rest)

/-- The characters beyond ASCII with their places among those inserted before them, the lowest code
points first. `before` are the characters on the left, backwards. -/
def insertionsFrom (before : List Char) : List Char → List (Nat × Nat)
  | [] => []
  | c :: rest =>
    let more := insertionsFrom (c :: before) rest
    if c.toNat < 0x80 then more else (c.toNat, before.countP (·.toNat ≤ c.toNat)) :: more

def insertions (text : List Char) : List (Nat × Nat) :=
  (insertionsFrom [] text).mergeSort fun a b => a.1 ≤ b.1

/-- Writes insertions as distances. -/
def writeInsertions (cursor : Cursor) : List (Nat × Nat) → List Char
  | [] => []
  | (code, place) :: rest =>
    let distance := cursor.distance code place
    digits cursor.bias 36 distance ++ writeInsertions (cursor.insert distance) rest

/-- A text in ASCII. A hyphen stands between its ASCII characters and the insertions. -/
def encode (text : List Char) : List Char :=
  let plain := text.filter (·.toNat < 0x80)
  (if plain.isEmpty then [] else plain ++ ['-']) ++
    writeInsertions { count := plain.length } (insertions text)

/-- Carries out the insertions that a text stands for; `fuel` is at least their number. -/
def insertAll? (fuel : Nat) (cursor : Cursor) (read : List Char) : List Char → Option (List Char)
  | [] => some read
  | text =>
    match fuel with
    | 0 => none
    | fuel + 1 => do
      let (distance, rest) ← number? cursor.bias 36 1 text
      let next := cursor.insert distance
      let character ← Text.scalar? next.code
      insertAll? fuel next (read.insertIdx (next.place - 1) character) rest

/-- The text that is written in ASCII. The hyphen is the last one, and something stands before it. -/
def decode? (text : List Char) : Option (List Char) :=
  let backwards := text.reverse
  match (backwards.dropWhile (· ≠ '-')).drop 1, (backwards.takeWhile (· ≠ '-')).reverse with
  | [], _ => insertAll? text.length { count := 0 } [] text
  | plain, written => insertAll? text.length { count := plain.length } plain.reverse written

end AutoItDocs.Domain.Punycode
