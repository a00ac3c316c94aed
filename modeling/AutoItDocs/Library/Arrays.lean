import AutoItDocs.Library.Module
/-!
Functions of the header for arrays.
-/
namespace AutoItDocs.Library

def arrayParamText : String :=
  "Array to modify."

def arraysSignatures : List Signature := [
  { name := "_ArrayAdd"
    label := "_ArrayAdd ( ByRef $aArray, $vValue [, $iStart = 0 [, $sDelim_Item = \"|\" [, $sDelim_Row = @CRLF [, $iForce = $ARRAYFILL_FORCE_DEFAULT]]]] )"
    documentation := "Adds a specified value at the end of an existing 1D or 2D array."
    returns := some (Markdown.clauses ["Success: the index of last added item.", "Failure: -1 and sets the @error flag to non-zero."])
    parameters := [
      .required "$aArray" arrayParamText,
      .required "$vValue" "Value(s) to add - can be a single item, a delimited string or an array.",
      .defaulted "$iStart" "Column in which addition is to begin (2D array only)." "0",
      .defaulted "$sDelim_Item" "Delimiter used to split items." "\"|\"",
      .defaulted "$sDelim_Row" "Delimiter used to split rows (2D only)." "@CRLF",
      .defaulted "$iForce" "Force $vValue to be added as a single item or array." "$ARRAYFILL_FORCE_DEFAULT"] },
  { name := "_ArrayDelete"
    label := "_ArrayDelete ( ByRef $aArray, $vRange )"
    documentation := "Deletes specified element(s) from a 1D or 2D array."
    returns := some (Markdown.clauses ["Success: the number of elements in the array after deletion.", "Failure: -1 and sets the @error flag to non-zero."])
    parameters := [
      .required "$aArray" arrayParamText,
      .required "$vRange" "Element(s) to delete - either a single index, a range string or a 1D array."] },
  { name := "_ArrayDisplay"
    label := "_ArrayDisplay ( Const ByRef $aArray [, $sTitle = \"ArrayDisplay\" [, $sArrayRange = \"\" [, $iFlags = 0 [, $vUser_Separator = Default [, $sHeader = Default [, $iMax_ColWidth = Default]]]]]] )"
    documentation := "Displays a 1D or 2D array in a ListView."
    parameters := [
      .required "$aArray" "Array to display.",
      .defaulted "$sTitle" "Title for dialog." "\"ArrayDisplay\"",
      .defaulted "$sArrayRange" "Range of rows/columns to display." "\"\"",
      .defaulted "$iFlags" "Determine UDF options. Add required values together." "0",
      .defaulted "$vUser_Separator" "Sets column display option when copying data to clipboard." "Default",
      .defaulted "$sHeader" "Column names in header (string of names separated by current separator character)." "Default",
      .defaulted "$iMax_ColWidth" "Max width to which a ListView column will expand to show content." "Default"] },
  { name := "_ArrayReverse"
    label := "_ArrayReverse ( ByRef $aArray [, $iStart = 0 [, $iEnd = 0]] )"
    documentation := "Takes the given array and reverses the order in which the elements appear in a 1D array."
    returns := some "Success: 1. Failure: 0 and sets the @error flag to non-zero."
    parameters := [
      .required "$aArray" arrayParamText,
      .defaulted "$iStart" "Index of array to start modifying at." "0",
      .defaulted "$iEnd" "Index of array to stop modifying at." "0"] },
  { name := "_ArraySearch"
    label := "_ArraySearch ( Const ByRef $aArray, $vValue [, $iStart = 0 [, $iEnd = 0 [, $iCase = 0 [, $iCompare = 0 [, $iForward = 1 [, $iSubItem = -1 [, $bRow = False]]]]]]] )"
    documentation := "Finds an entry within a 1D or 2D array. Similar to _ArrayBinarySearch(), except that the array does not need to be sorted."
    returns := some (Markdown.clauses ["Success: the index where the search criteria was found.", "Failure: -1 and sets the @error flag to non-zero."])
    parameters := [
      .required "$aArray" "The array to search.",
      .required "$vValue" "What to search $aArray for.",
      .defaulted "$iStart" "Index of array to start searching at." "0",
      .defaulted "$iEnd" "Index of array to stop searching at." "0",
      .defaulted "$iCase" "If set to 1, search is case sensitive." "0",
      .defaulted "$iCompare" "Comparison mode." "0",
      .defaulted "$iForward" "If set to 0, searches the array from end to beginning." "1",
      .defaulted "$iSubItem" "Sub-index to search on in 2D arrays." "-1",
      .defaulted "$bRow" "If True then $iSubItem sets the row to search." "False"] },
  { name := "_ArraySort"
    label := "_ArraySort ( ByRef $aArray [, $iDescending = 0 [, $iStart = 0 [, $iEnd = 0 [, $iSubItem = 0 [, $iPivot = 0]]]]] )"
    documentation := "Sort a 1D or 2D array on a specific index using the quicksort/insertionsort algorithms."
    returns := some "Success: 1. Failure: 0 and sets the @error flag to non-zero."
    parameters := [
      .required "$aArray" "Array to sort.",
      .defaulted "$iDescending" "If set to 1, sort in descending order." "0",
      .defaulted "$iStart" "Index of array to start sorting at." "0",
      .defaulted "$iEnd" "Index of array to stop sorting at." "0",
      .defaulted "$iSubItem" "Sub-index to sort on in 2D arrays." "0",
      .defaulted "$iPivot" "1 = Use pivot sort algorithm." "0"] },
  { name := "_ArrayToString"
    label := "_ArrayToString ( Const ByRef $aArray [, $sDelim_Col = \"|\" [, $iStart_Row = -1 [, $iEnd_Row = -1 [, $sDelim_Row = @CRLF [, $iStart_Col = -1 [, $iEnd_Col = -1]]]]]] )"
    documentation := "Places the elements of a 1D or 2D array into a single string, separated by the specified delimiters."
    returns := some "Success: the string which combined selected elements separated by the delimiters."
    parameters := [
      .required "$aArray" "Array to combine.",
      .defaulted "$sDelim_Col" "Delimiter for combined string." "\"|\"",
      .defaulted "$iStart_Row" "Index of array to start combining at." "-1",
      .defaulted "$iEnd_Row" "Index of array to stop combining at." "-1",
      .defaulted "$sDelim_Row" "Delimiter for 2D arrays." "@CRLF",
      .defaulted "$iStart_Col" "Index of column to start combining at." "-1",
      .defaulted "$iEnd_Col" "Index of column to stop combining at." "-1"] },
  { name := "_ArrayUnique"
    label := "_ArrayUnique ( Const ByRef $aArray [, $iColumn = 0 [, $iBase = 0 [, $iCase = 0 [, $iCount = $ARRAYUNIQUE_COUNT [, $iIntType = $ARRAYUNIQUE_AUTO]]]]] )"
    documentation := "Returns the unique elements of a 1D or 2D array column."
    returns := some "Success: a 1-dimensional array containing only the unique elements of that column."
    parameters := [
      .required "$aArray" "Array to process.",
      .defaulted "$iColumn" "1D arrays only 0. 2D arrays the column to search." "0",
      .defaulted "$iBase" "Start index of the array. 0 or 1." "0",
      .defaulted "$iCase" "Flag to indicate if the operations should be case sensitive." "0",
      .defaulted "$iCount" "Flag to determine if [0] element holds a count of returned items." "$ARRAYUNIQUE_COUNT",
      .defaulted "$iIntType" "Flag to change how 64-bit integers are handled." "$ARRAYUNIQUE_AUTO"] }]

/-- The bundled module `Array`. -/
def arrays : Library :=
  .ofSignatures "Array" (some "Array.au3") arraysSignatures

end AutoItDocs.Library
