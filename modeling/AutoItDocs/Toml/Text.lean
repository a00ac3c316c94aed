import AutoItDocs.Text.Digits
/-!
The texts in a TOML document: blanks, comments, line ends, strings in their four spellings, and
keys. Every reader takes a text and gives back what it read with the rest of the text.
-/
namespace AutoItDocs.Toml

open Text (hexNumber? scalar?)

def isBlank (c : Char) : Bool := c == ' ' || c == '\t'

def skipBlanks (text : List Char) : List Char := text.dropWhile isBlank

/-- Characters of comments and literal strings: no control characters but the tab. -/
def isPrintable (c : Char) : Bool := c == '\t' || (0x20 ≤ c.toNat && c.toNat != 0x7F)

/-- The text without the comment that it may start with. -/
def skipComment (text : List Char) : List Char :=
  match text with
  | '#' :: rest => rest.dropWhile isPrintable
  | _ => text

/-- What follows a line feed, which a carriage return may precede. -/
def newline? : List Char → Option (List Char)
  | '\n' :: rest => some rest
  | '\r' :: '\n' :: rest => some rest
  | _ => none

/-- Reads blanks and a comment up to the end of a line or of the text. -/
def lineEnd? (text : List Char) : Option (List Char) :=
  match skipComment (skipBlanks text) with
  | [] => some []
  | rest => newline? rest

/-- The characters that a backslash with a letter stands for. -/
def simpleEscape? (c : Char) : Option Char :=
  match c with
  | 'b' => some '\x08'
  | 't' => some '\t'
  | 'n' => some '\n'
  | 'f' => some '\x0c'
  | 'r' => some '\r'
  | '"' => some '"'
  | '\\' => some '\\'
  | _ => none

def escaped? (digits : List Char) : Option Char := (hexNumber? digits).bind scalar?

def finish (read : List Char) : String := String.ofList read.reverse

/-- The rest of a string up to its quote, `read` being what was read of it, backwards. -/
def basicRest? (read : List Char) : List Char → Option (String × List Char)
  | '"' :: rest => some (finish read, rest)
  | '\\' :: 'u' :: a :: b :: c :: d :: rest =>
    match escaped? [a, b, c, d] with
    | some character => basicRest? (character :: read) rest
    | none => none
  | '\\' :: 'U' :: a :: b :: c :: d :: e :: f :: g :: h :: rest =>
    match escaped? [a, b, c, d, e, f, g, h] with
    | some character => basicRest? (character :: read) rest
    | none => none
  | '\\' :: c :: rest =>
    match simpleEscape? c with
    | some character => basicRest? (character :: read) rest
    | none => none
  | c :: rest => if isPrintable c then basicRest? (c :: read) rest else none
  | [] => none

/-- The rest of a literal string up to its apostrophe. -/
def literalRest? (read : List Char) : List Char → Option (String × List Char)
  | '\'' :: rest => some (finish read, rest)
  | c :: rest => if isPrintable c then literalRest? (c :: read) rest else none
  | [] => none

/-- After three quotes that close a string, up to two more quotes belong to its content. -/
def closing (quote : Char) (read : List Char) (text : List Char) : String × List Char :=
  match text with
  | a :: b :: rest =>
    if a = quote ∧ b = quote then (finish (quote :: quote :: read), rest)
    else if a = quote then (finish (quote :: read), b :: rest)
    else (finish read, text)
  | [a] => if a = quote then (finish (quote :: read), []) else (finish read, text)
  | [] => (finish read, [])

/-- What a backslash at the end of a line does to the text after it. -/
inductive Join where
  /-- No such backslash is open. -/
  | none
  /-- Blanks have to lead to the end of the line. -/
  | toLineEnd
  /-- Blanks and line ends are skipped. -/
  | skipping
  deriving DecidableEq, Repr, Inhabited

/-- The rest of a string of several lines. Line ends are kept as line feeds. -/
def multilineRest? (join : Join) (read : List Char) : List Char → Option (String × List Char)
  | [] => .none
  | c :: rest =>
    if c = '\r' then
      match rest with
      | '\n' :: rest =>
        multilineRest? (if join = .none then .none else .skipping)
          (if join = .none then '\n' :: read else read) rest
      | _ => .none
    else if c = '\n' then
      multilineRest? (if join = .none then .none else .skipping)
        (if join = .none then c :: read else read) rest
    else if join ≠ .none ∧ isBlank c then multilineRest? join read rest
    else if join = .toLineEnd then .none
    else if c = '"' then
      match rest with
      | '"' :: '"' :: rest => some (closing '"' read rest)
      | _ => multilineRest? .none (c :: read) rest
    else if c = '\\' then
      match rest with
      | 'u' :: a :: b :: c :: d :: rest =>
        match escaped? [a, b, c, d] with
        | some character => multilineRest? .none (character :: read) rest
        | .none => .none
      | 'U' :: a :: b :: c :: d :: e :: f :: g :: h :: rest =>
        match escaped? [a, b, c, d, e, f, g, h] with
        | some character => multilineRest? .none (character :: read) rest
        | .none => .none
      | '\r' :: '\n' :: rest => multilineRest? .skipping read rest
      | e :: rest =>
        if e = '\n' then multilineRest? .skipping read rest
        else if isBlank e then multilineRest? .toLineEnd read rest
        else
          match simpleEscape? e with
          | some character => multilineRest? .none (character :: read) rest
          | .none => .none
      | [] => .none
    else if isPrintable c then multilineRest? .none (c :: read) rest
    else .none

/-- The rest of a literal string of several lines. -/
def multilineLiteralRest? (read : List Char) : List Char → Option (String × List Char)
  | '\'' :: '\'' :: '\'' :: rest => some (closing '\'' read rest)
  | '\r' :: '\n' :: rest => multilineLiteralRest? ('\n' :: read) rest
  | c :: rest =>
    if c = '\n' ∨ isPrintable c then multilineLiteralRest? (c :: read) rest else none
  | [] => none

/-- A line end right after the opening quotes is no content. -/
def skipFirstNewline (text : List Char) : List Char := (newline? text).getD text

/-- Reads a string in any spelling. -/
def string? : List Char → Option (String × List Char)
  | '"' :: '"' :: '"' :: rest => multilineRest? .none [] (skipFirstNewline rest)
  | '\'' :: '\'' :: '\'' :: rest => multilineLiteralRest? [] (skipFirstNewline rest)
  | '"' :: rest => basicRest? [] rest
  | '\'' :: rest => literalRest? [] rest
  | _ => none

def isBareKeyChar (c : Char) : Bool := c.isAlphanum || c == '_' || c == '-'

/-- Reads one key: a string of one line or a bare word. -/
def simpleKey? (text : List Char) : Option (String × List Char) :=
  match text with
  | '"' :: rest => basicRest? [] rest
  | '\'' :: rest => literalRest? [] rest
  | _ =>
    let word := text.takeWhile isBareKeyChar
    if word.isEmpty then none else some (String.ofList word, text.dropWhile isBareKeyChar)

/-- How deep values and keys may nest; deeper documents are refused. -/
def depthLimit : Nat := 80

/-- Reads keys joined by dots, with the blanks around them, fewer than `limit`: the keys before the
last one, and the last one. -/
def dottedKey? (limit : Nat) (text : List Char) : Option ((List String × String) × List Char) :=
  match limit with
  | 0 => none
  | limit + 1 =>
    match simpleKey? (skipBlanks text) with
    | none => none
    | some (key, rest) =>
      match skipBlanks rest with
      | '.' :: rest =>
        (dottedKey? limit rest).map fun ((before, last), rest) => ((key :: before, last), rest)
      | rest => some (([], key), rest)

def key? (text : List Char) : Option ((List String × String) × List Char) :=
  dottedKey? (depthLimit - 1) text

end AutoItDocs.Toml
