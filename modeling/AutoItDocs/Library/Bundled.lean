import AutoItDocs.Library.BuiltIns
import AutoItDocs.Library.Math
import AutoItDocs.Library.Strings
import AutoItDocs.Library.Arrays
import AutoItDocs.Library.Dates
import AutoItDocs.Library.Files
/-!
The modules that are documented without any settings.
-/
namespace AutoItDocs.Library

/-- The bundled modules in merge order, the functions of the language first. -/
def bundled : List Library := [builtIns, math, strings, arrays, dates, files]

/-- Equality of names up to the case of ASCII letters. -/
def sameName (a b : String) : Bool := a.toList.map Char.toLower == b.toList.map Char.toLower

def bundled? (name : String) : Option Library := bundled.find? (sameName ·.name name)

end AutoItDocs.Library
