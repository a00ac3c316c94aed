import AutoItDocs.Toml.Value
import AutoItDocs.Text.Digits
/-!
Numbers and dates in a TOML document. Each is one word of letters, digits and a few marks; a date
may be followed by a space and a time.
-/
namespace AutoItDocs.Toml

open Text (hexNumber? decimalNumber)

/-- The digits of a number with underscores between them; each underscore has a digit on either
side. -/
def groupedDigits? (isDigit : Char → Bool) : List Char → Option (List Char)
  | [] => none
  | [c] => if isDigit c then some [c] else none
  | c :: '_' :: rest => if isDigit c then (groupedDigits? isDigit rest).map (c :: ·) else none
  | c :: rest => if isDigit c then (groupedDigits? isDigit rest).map (c :: ·) else none

/-- The sign of a number, and the text after it. -/
def signed (text : List Char) : Bool × List Char :=
  match text with
  | '-' :: rest => (true, rest)
  | '+' :: rest => (false, rest)
  | _ => (false, text)

/-- Digits of a decimal integer, which has no superfluous zero in front. -/
def decimalDigits? (text : List Char) : Option (List Char) :=
  match text with
  | '0' :: _ :: _ => none
  | _ => groupedDigits? Char.isDigit text

def isHexDigit (c : Char) : Bool := (Text.hexValue? c).isSome

def isOctalDigit (c : Char) : Bool := '0' ≤ c && c ≤ '7'

def isBinaryDigit (c : Char) : Bool := c == '0' || c == '1'

def inBase (base : Nat) (digits : List Char) : Nat :=
  digits.foldl (fun n c => base * n + (c.toNat - '0'.toNat)) 0

/-- Integers have to fit into 64 bits. -/
def bounded? (n : Int) : Option Value :=
  if -0x8000000000000000 ≤ n ∧ n ≤ 0x7FFFFFFFFFFFFFFF then some (.integer n) else none

def integer? (text : List Char) : Option Value :=
  match text with
  | '0' :: 'x' :: rest => do bounded? (← hexNumber? (← groupedDigits? isHexDigit rest))
  | '0' :: 'o' :: rest => do bounded? (inBase 8 (← groupedDigits? isOctalDigit rest))
  | '0' :: 'b' :: rest => do bounded? (inBase 2 (← groupedDigits? isBinaryDigit rest))
  | _ => do
    let (negative, magnitude) := signed text
    let n : Int := decimalNumber (← decimalDigits? magnitude)
    bounded? (if negative then -n else n)

/-- The number `digits` times ten to the power `scale` is rounded to infinity in 64 bits. -/
def isInfinite (digits : List Char) (scale : Int) : Bool :=
  let significant := digits.dropWhile (· == '0')
  let magnitude := scale + significant.length
  if significant.isEmpty || magnitude < 300 then false
  else if magnitude > 310 then true
  else
    let n := decimalNumber significant
    let least := Nat.pow 2 1024 - Nat.pow 2 970
    match scale with
    | .ofNat up => least ≤ n * Nat.pow 10 up
    | .negSucc down => least * Nat.pow 10 (down + 1) ≤ n

/-- The exponent that a text after `e` stands for. -/
def exponent? (text : List Char) : Option Int := do
  let (negative, magnitude) := signed text
  let n : Int := decimalNumber (← groupedDigits? Char.isDigit magnitude)
  return if negative then -n else n

def isExponentMark (c : Char) : Bool := c == 'e' || c == 'E'

/-- A number with a fraction or an exponent. One that is too large for 64 bits is refused, one that
is too small in the negative is not. -/
def float? (text : List Char) : Option Value := do
  let (negative, magnitude) := signed text
  if magnitude = ['i', 'n', 'f'] ∨ magnitude = ['n', 'a', 'n'] then return .float
  let mantissa := magnitude.takeWhile (!isExponentMark ·)
  let exponent ← match magnitude.dropWhile (!isExponentMark ·) with
    | [] => some 0
    | _ :: rest => exponent? rest
  let whole ← decimalDigits? (mantissa.takeWhile (· ≠ '.'))
  let fraction ← match mantissa.dropWhile (· ≠ '.') with
    | [] => if mantissa.length = magnitude.length then none else some []
    | _ :: rest => groupedDigits? Char.isDigit rest
  if !negative && isInfinite (whole ++ fraction) (exponent - fraction.length) then none
  else return .float

/-- The number that exactly `count` digits at the start of a text stand for, and the rest. -/
def fixedDigits? (count : Nat) (text : List Char) : Option (Nat × List Char) :=
  let digits := text.take count
  if digits.length = count ∧ digits.all Char.isDigit then
    some (decimalNumber digits, text.drop count)
  else none

def daysInMonth (year month : Nat) : Nat :=
  if month = 2 then
    if year % 4 = 0 ∧ (year % 100 ≠ 0 ∨ year % 400 = 0) then 29 else 28
  else if month = 4 ∨ month = 6 ∨ month = 9 ∨ month = 11 then 30
  else 31

def expect? (c : Char) : List Char → Option (List Char)
  | d :: rest => if d = c then some rest else none
  | [] => none

/-- What follows a date of the calendar. -/
def afterDate? (text : List Char) : Option (List Char) := do
  let (year, rest) ← fixedDigits? 4 text
  let (month, rest) ← fixedDigits? 2 (← expect? '-' rest)
  let (day, rest) ← fixedDigits? 2 (← expect? '-' rest)
  if 1 ≤ month ∧ month ≤ 12 ∧ 1 ≤ day ∧ day ≤ daysInMonth year month then some rest else none

/-- What follows a time of the day; a minute may have a leap second. -/
def afterTime? (text : List Char) : Option (List Char) := do
  let (hour, rest) ← fixedDigits? 2 text
  let (minute, rest) ← fixedDigits? 2 (← expect? ':' rest)
  let (second, rest) ← fixedDigits? 2 (← expect? ':' rest)
  if 24 ≤ hour ∨ 60 ≤ minute ∨ 60 < second then none
  else match rest with
    | '.' :: fraction =>
      if (fraction.takeWhile Char.isDigit).isEmpty then none
      else some (fraction.dropWhile Char.isDigit)
    | _ => some rest

/-- A time zone: Z, or hours and minutes. -/
def isOffset (text : List Char) : Bool :=
  match text with
  | ['Z'] => true
  | ['z'] => true
  | sign :: rest =>
    (sign == '+' || sign == '-') && (do
      let (hour, rest) ← fixedDigits? 2 rest
      let (minute, rest) ← fixedDigits? 2 (← expect? ':' rest)
      some (hour < 24 && minute < 60 && rest.isEmpty)).getD false
  | [] => false

/-- A time with an optional time zone, as it follows a date. -/
def isZonedTime (text : List Char) : Bool :=
  match afterTime? text with
  | some rest => rest.isEmpty || isOffset rest
  | none => false

def isDate (text : List Char) : Bool := afterDate? text == some []

def isTime (text : List Char) : Bool := afterTime? text == some []

/-- A date, a time, or both with a T between them. -/
def dateTime? (text : List Char) : Option Value :=
  match afterDate? text with
  | some [] => some .dateTime
  | some (mark :: rest) =>
    if (mark == 'T' || mark == 't') && isZonedTime rest then some .dateTime else none
  | none => if isTime text then some .dateTime else none

/-- Characters of numbers, dates and the words for truth values. -/
def isScalarChar (c : Char) : Bool :=
  c.isAlphanum || c == '+' || c == '-' || c == '.' || c == ':' || c == '_'

/-- The value that a word stands for. -/
def ofWord? (word : List Char) : Option Value :=
  if word = ['t', 'r', 'u', 'e'] then some (.boolean true)
  else if word = ['f', 'a', 'l', 's', 'e'] then some (.boolean false)
  else (dateTime? word).or ((float? word).or (integer? word))

/-- Reads a number, a date or a truth value. A digit after a date and a space starts a time. -/
def scalarValue? (text : List Char) : Option (Value × List Char) :=
  let word := text.takeWhile isScalarChar
  let rest := text.dropWhile isScalarChar
  match rest with
  | ' ' :: d :: more =>
    if isDate word && d.isDigit then
      if isZonedTime ((d :: more).takeWhile isScalarChar) then
        some (.dateTime, (d :: more).dropWhile isScalarChar)
      else none
    else (ofWord? word).map (·, rest)
  | _ => (ofWord? word).map (·, rest)

end AutoItDocs.Toml
