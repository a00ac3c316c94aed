import AutoItDocs.Text.Normal.Decomposition
import AutoItDocs.Text.Normal.Order
/-!
The composed normal form of text, NFC: characters are decomposed, the marks on each are ordered by
their combining classes, and what can be composed again is composed.
-/
namespace AutoItDocs.Text

namespace Normal

/-- The parts of a Hangul syllable: a leading consonant, a vowel, and a trailing consonant that may
be missing. Syllables are numbered in the order of their parts. -/
def syllableParts? (code : Nat) : Option (List Nat) :=
  if 0xAC00 ≤ code ∧ code < 0xD7A4 then
    let number := code - 0xAC00
    let pair := [0x1100 + number / 588, 0x1161 + number % 588 / 28]
    some (if number % 28 = 0 then pair else pair ++ [0x11A7 + number % 28])
  else none

/-- The Hangul syllable of a consonant and a vowel, or of a syllable and a trailing consonant. -/
def syllable? (first second : Nat) : Option Nat :=
  if 0x1100 ≤ first ∧ first < 0x1113 ∧ 0x1161 ≤ second ∧ second < 0x1176 then
    some (0xAC00 + ((first - 0x1100) * 21 + (second - 0x1161)) * 28)
  else if 0xAC00 ≤ first ∧ first < 0xD7A4 ∧ (first - 0xAC00) % 28 = 0 ∧
      0x11A7 < second ∧ second < 0x11C3 then
    some (first + (second - 0x11A7))
  else none

/-- What a character is decomposed to in one step. -/
def parts? (code : Nat) : Option (List Nat) :=
  ((syllableParts? code).or (composites.lookup code)).or (alwaysDecomposed.lookup code)

/-- What a character is decomposed to in at most `steps` steps. -/
def decompose (steps : Nat) (code : Nat) : List Nat :=
  match steps with
  | 0 => [code]
  | steps + 1 =>
    match parts? code with
    | none => [code]
    | some parts => parts.flatMap (decompose steps)

/-- The character that two others are composed to. -/
def composite? (first second : Nat) : Option Nat :=
  (syllable? first second).or
    ((composites.find? fun entry => entry.2 == [first, second]).map (·.1))

/-- Puts a mark in front of marks in order; those of lower classes come first. -/
def insertMark (code : Nat) : List Nat → List Nat
  | [] => [code]
  | next :: rest =>
    if 0 < combiningClass next ∧ combiningClass next < combiningClass code then
      next :: insertMark code rest
    else code :: next :: rest

/-- Orders the marks on every character by their classes. -/
def order : List Nat → List Nat := List.foldr insertMark []

/-- Composes what follows the character `first`, `marks` being those on it that stay apart, the last
one first. A mark is composed with the character if none of its class or a higher one is between
them. -/
def composeAfter (first : Nat) (marks : List Nat) : List Nat → List Nat
  | [] => first :: marks.reverse
  | code :: rest =>
    let isNear := marks.head?.all fun mark => combiningClass mark < combiningClass code
    match if isNear then composite? first code else none with
    | some composed => composeAfter composed marks rest
    | none =>
      if combiningClass code = 0 then first :: marks.reverse ++ composeAfter code [] rest
      else composeAfter first (code :: marks) rest

/-- Composes what can be composed; marks at the start stay as they are. -/
def compose : List Nat → List Nat
  | [] => []
  | code :: rest =>
    if combiningClass code = 0 then composeAfter code [] rest else code :: compose rest

end Normal

/-- The composed normal form of a text. ASCII text is its own normal form, and no decomposition
takes more than three steps. -/
def normalForm (text : List Char) : List Char :=
  if text.all fun c => c.toNat < 0x80 then text
  else
    let codes := text.flatMap fun c => Normal.decompose 3 c.toNat
    (Normal.compose (Normal.order codes)).map Char.ofNat

end AutoItDocs.Text
