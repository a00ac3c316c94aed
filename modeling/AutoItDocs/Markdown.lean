import AutoItDocs.Text.Blank
/-!
The fixed phrases of the markdown that documents functions.
-/
namespace AutoItDocs.Markdown

/-- Marks a parameter that callers may leave out. -/
def optionalMark : String := "**[optional]**"

/-- Hard line break between clauses of one text. -/
def hardBreak : String := "  \n"

def defaultZero : String := "Default is 0."
def defaultOne : String := "Default is 1."
def defaultMinusOne : String := "Default is -1."
def defaultEmptyString : String := "Default is \"\"."
def defaultKeyword : String := "Default is the `Default` keyword."

/-- Clauses of one text, each on a line of its own. -/
def clauses (parts : List String) : String := hardBreak.intercalate parts

/-- Default values with a sentence of their own, both spellings of the empty string among them. -/
def cannedDefault? (value : String) : Option String :=
  if value = "0" then some defaultZero
  else if value = "1" then some defaultOne
  else if value = "-1" then some defaultMinusOne
  else if value = "\"\"" ∨ value = "''" then some defaultEmptyString
  else if value = "Default" then some defaultKeyword
  else none

/-- The sentence that names a default value, blanks around the value left out. -/
def defaultSentence (value : String) : String :=
  let trimmed := String.ofList (Text.trim value.toList)
  (cannedDefault? trimmed).getD ("Default is " ++ trimmed ++ ".")

/-- Header in front of what the function `name` returns. -/
def returnsHeader (name : String) : String := "**Return value** of `" ++ name ++ "`:"

/-- Names the header file that a script has to include. -/
def includeNote (header : String) : String := "(Requires: `#include <" ++ header ++ ">`)"

/-- A code block in the script language. -/
def codeBlock (code : String) : String := "```autoit\n" ++ code ++ "\n```"

end AutoItDocs.Markdown
