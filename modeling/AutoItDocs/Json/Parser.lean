import AutoItDocs.Json
import AutoItDocs.Text.Digits
/-!
Reading JSON text. Every reader takes a text and gives back a value with the rest of the text.
-/
namespace AutoItDocs.Json

open Text (hexNumber? scalar? decimalNumber)

def isBlank (c : Char) : Bool := c == ' ' || c == '\t' || c == '\n' || c == '\r'

def skipBlanks (text : List Char) : List Char := text.dropWhile isBlank

/-- The character that a pair of UTF-16 surrogates stands for. -/
def ofSurrogates? (high low : Nat) : Option Char :=
  if 0xD800 ≤ high ∧ high < 0xDC00 ∧ 0xDC00 ≤ low ∧ low < 0xE000 then
    some (Char.ofNat (0x10000 + (high - 0xD800) * 0x400 + (low - 0xDC00)))
  else none

def simpleEscape? (c : Char) : Option Char :=
  match c with
  | '"' => some '"'
  | '\\' => some '\\'
  | '/' => some '/'
  | 'b' => some '\x08'
  | 'f' => some '\x0c'
  | 'n' => some '\n'
  | 'r' => some '\r'
  | 't' => some '\t'
  | _ => none

/-- The rest of a string up to its closing quote, `read` being what was read of it, backwards. -/
def stringRest? (read : List Char) : List Char → Option (String × List Char)
  | '"' :: rest => some (String.ofList read.reverse, rest)
  | '\\' :: 'u' :: a :: b :: c :: d :: rest => do
    let code ← hexNumber? [a, b, c, d]
    match scalar? code with
    | some character => stringRest? (character :: read) rest
    | none =>
      match rest with
      | '\\' :: 'u' :: e :: f :: g :: h :: rest => do
        let low ← hexNumber? [e, f, g, h]
        let character ← ofSurrogates? code low
        stringRest? (character :: read) rest
      | _ => none
  | '\\' :: c :: rest => do
    let character ← simpleEscape? c
    stringRest? (character :: read) rest
  | c :: rest => if c.toNat < 0x20 then none else stringRest? (c :: read) rest
  | [] => none

def isNumberChar (c : Char) : Bool :=
  c.isDigit || c == '-' || c == '+' || c == '.' || c == 'e' || c == 'E'

/-- Digits without a superfluous zero in front. -/
def isNatural (digits : List Char) : Bool :=
  match digits with
  | [] => false
  | '0' :: rest => rest.isEmpty
  | _ => digits.all Char.isDigit

/-- A fraction and an exponent, each of which may be missing. -/
def isFractional (text : List Char) : Bool :=
  let afterPoint := match text with
    | '.' :: rest => if (rest.takeWhile Char.isDigit).isEmpty then none
        else some (rest.dropWhile Char.isDigit)
    | _ => some text
  match afterPoint with
  | none => false
  | some [] => true
  | some (e :: rest) =>
    let digits := match rest with
      | '+' :: digits => digits
      | '-' :: digits => digits
      | _ => rest
    (e == 'e' || e == 'E') && !digits.isEmpty && digits.all Char.isDigit

def number? (text : List Char) : Option Json :=
  let (negative, magnitude) := match text with
    | '-' :: rest => (true, rest)
    | _ => (false, text)
  let digits := magnitude.takeWhile Char.isDigit
  let tail := magnitude.dropWhile Char.isDigit
  if !isNatural digits then none
  else if tail.isEmpty && !(negative && digits == ['0']) then
    let n : Int := decimalNumber digits
    some (.integer (if negative then -n else n))
  else if tail.isEmpty || isFractional tail then some (.decimal (String.ofList text))
  else none

mutual

/-- Reads a value; `fuel` bounds the steps, of which a text needs at most two for each character. -/
def value? (fuel : Nat) (text : List Char) : Option (Json × List Char) :=
  match fuel with
  | 0 => none
  | fuel + 1 =>
    match skipBlanks text with
    | 'n' :: 'u' :: 'l' :: 'l' :: rest => some (.null, rest)
    | 't' :: 'r' :: 'u' :: 'e' :: rest => some (.bool true, rest)
    | 'f' :: 'a' :: 'l' :: 's' :: 'e' :: rest => some (.bool false, rest)
    | '"' :: rest => (stringRest? [] rest).map fun (s, rest) => (.string s, rest)
    | '[' :: rest =>
      match skipBlanks rest with
      | ']' :: rest => some (.array [], rest)
      | rest => (elements? fuel rest).map fun (elements, rest) => (.array elements, rest)
    | '\x7b' :: rest =>
      match skipBlanks rest with
      | '\x7d' :: rest => some (.object [], rest)
      | rest => (fields? fuel rest).map fun (fields, rest) => (.object fields, rest)
    | text =>
      (number? (text.takeWhile isNumberChar)).map fun n => (n, text.dropWhile isNumberChar)

/-- Reads the elements of an array up to its end. -/
def elements? (fuel : Nat) (text : List Char) : Option (List Json × List Char) :=
  match fuel with
  | 0 => none
  | fuel + 1 =>
    match value? fuel text with
    | none => none
    | some (element, rest) =>
      match skipBlanks rest with
      | ']' :: rest => some ([element], rest)
      | ',' :: rest => (elements? fuel rest).map fun (more, rest) => (element :: more, rest)
      | _ => none

/-- Reads the fields of an object up to its end. -/
def fields? (fuel : Nat) (text : List Char) : Option (List (String × Json) × List Char) :=
  match fuel with
  | 0 => none
  | fuel + 1 =>
    match skipBlanks text with
    | '"' :: rest =>
      match stringRest? [] rest with
      | none => none
      | some (name, rest) =>
        match skipBlanks rest with
        | ':' :: rest =>
          match value? fuel rest with
          | none => none
          | some (value, rest) =>
            match skipBlanks rest with
            | '\x7d' :: rest => some ([(name, value)], rest)
            | ',' :: rest =>
              (fields? fuel rest).map fun (more, rest) => ((name, value) :: more, rest)
            | _ => none
        | _ => none
    | _ => none

end

/-- The value that a whole text stands for. -/
def parse? (text : String) : Option Json :=
  let characters := text.toList
  match value? (2 * characters.length + 2) characters with
  | some (value, rest) => if (skipBlanks rest).isEmpty then some value else none
  | none => none

end AutoItDocs.Json
