import AutoItDocs.Text.Digits
/-!
Percent encoding: characters that a part of an address cannot hold are written as the bytes of their
UTF-8 form, each as a percent sign and two hexadecimal digits.
-/
namespace AutoItDocs.Uri

/-- Characters that every part encodes: controls and all beyond ASCII. -/
def isControl (c : Char) : Bool := c.toNat ≤ 0x1F || 0x7E < c.toNat

def encodesInFragment (c : Char) : Bool := isControl c || [' ', '"', '<', '>', '`'].contains c

def encodesInQuery (c : Char) : Bool := isControl c || [' ', '"', '#', '<', '>'].contains c

def encodesInPath (c : Char) : Bool :=
  encodesInFragment c || ['#', '?', '\x7b', '\x7d'].contains c

def encodesInCredentials (c : Char) : Bool :=
  encodesInPath c || ['/', ':', ';', '=', '@', '[', '\\', ']', '^', '|'].contains c

def hexDigit (n : Nat) : Char := (Nat.digitChar n).toUpper

def encodeByte (b : UInt8) : List Char := ['%', hexDigit (b.toNat / 16), hexDigit (b.toNat % 16)]

/-- A text with the characters that a part encodes written as bytes. -/
def percentEncode (encodes : Char → Bool) (text : List Char) : List Char :=
  text.flatMap fun c =>
    if encodes c then (String.singleton c).toUTF8.toList.flatMap encodeByte else [c]

/-- The bytes of a text, where an encoded byte is taken as that byte. -/
def percentDecode : List Char → List UInt8
  | '%' :: a :: b :: rest =>
    match Text.hexNumber? [a, b] with
    | some byte => byte.toUInt8 :: percentDecode rest
    | none => '%'.toNat.toUInt8 :: percentDecode (a :: b :: rest)
  | c :: rest => (String.singleton c).toUTF8.toList ++ percentDecode rest
  | [] => []

/-- The text that an encoded text stands for, if its bytes are a text. -/
def decode? (text : List Char) : Option String :=
  String.fromUTF8? ⟨(percentDecode text).toArray⟩

/-- The name of a file that an encoded text stands for. Bytes that are no text become a character
that is in no name. -/
def decodeName (text : String) : String := (decode? text.toList).getD "\x00"

end AutoItDocs.Uri
