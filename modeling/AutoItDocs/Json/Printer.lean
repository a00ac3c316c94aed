import AutoItDocs.Json
/-!
The text of a JSON value, without blanks between its parts.
-/
namespace AutoItDocs.Json

def hexDigits (n : Nat) : List Char :=
  [n / 4096, n / 256, n / 16, n].map fun d => (Nat.digitChar (d % 16))

def escape (c : Char) : List Char :=
  if c = '"' then ['\\', '"']
  else if c = '\\' then ['\\', '\\']
  else if c.toNat < 0x20 then '\\' :: 'u' :: hexDigits c.toNat
  else [c]

def quote (s : String) : List Char := '"' :: s.toList.flatMap escape ++ ['"']

mutual

def print : Json → List Char
  | .null => "null".toList
  | .bool true => "true".toList
  | .bool false => "false".toList
  | .integer value => (toString value).toList
  | .decimal text => text.toList
  | .string value => quote value
  | .array elements => '[' :: printElements elements ++ [']']
  | .object fields => '\x7b' :: printFields fields ++ ['\x7d']

def printElements : List Json → List Char
  | [] => []
  | [element] => print element
  | element :: rest => print element ++ ',' :: printElements rest

def printFields : List (String × Json) → List Char
  | [] => []
  | [(name, value)] => quote name ++ ':' :: print value
  | (name, value) :: rest => quote name ++ ':' :: print value ++ ',' :: printFields rest

end

def render (value : Json) : String := String.ofList (print value)

end AutoItDocs.Json
