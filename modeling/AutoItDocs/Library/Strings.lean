import AutoItDocs.Library.Module
/-!
Functions of the header for strings.
-/
namespace AutoItDocs.Library

def stringsSignatures : List Signature := [
  { name := "_HexToString"
    label := "_HexToString ( $sHex )"
    documentation := "Convert a hex string to a string."
    returns := some "Success: a string. Failure: -1 and sets the @error flag to non-zero."
    parameters := [
      .required "$sHex" "A hexadecimal string."] },
  { name := "_StringBetween"
    label := "_StringBetween ( $sString, $sStart, $sEnd [, $iMode = $STR_ENDISSTART [, $bCase = False]] )"
    documentation := "Find strings between two string delimiters."
    returns := some (Markdown.clauses ["Success: a 0-based array.", "Failure: sets the @error flag to non-zero when no strings were found."])
    parameters := [
      .required "$sString" "The string to search.",
      .required "$sStart" "The beginning of the string to find. Passing an empty string starts at the beginning.",
      .required "$sEnd" "The end of the string to find. Passing an empty string searches from $sStart to the end of the string.",
      .defaulted "$iMode" "Search mode when $sStart = $sEnd." "$STR_ENDISSTART",
      .defaulted "$bCase" "False = case-insensitive. True = case-sensitive." "False"] },
  { name := "_StringExplode"
    label := "_StringExplode ( $sString, $sDelimiter [, $iLimit = 0] )"
    documentation := "Splits up a string into substrings depending on the given delimiters as PHP Explode v5."
    returns := some "An array of substrings."
    parameters := [
      .required "$sString" "String to be split.",
      .required "$sDelimiter" "Delimiter to split on (split is performed on entire string, not individual characters).",
      .defaulted "$iLimit" "Maximum elements to be returned. Negative values remove elements from the end." "0"] },
  { name := "_StringRepeat"
    label := "_StringRepeat ( $sString, $iRepeatCount )"
    documentation := "Repeats a string a specified number of times."
    returns := some "Success: the repeated string. Failure: an empty string and sets the @error flag to non-zero."
    parameters := [
      .required "$sString" "String to repeat.",
      .required "$iRepeatCount" "Number of times to repeat the string."] },
  { name := "_StringReverse"
    label := "_StringReverse ( $sString )"
    documentation := "Reverses the contents of the specified string."
    returns := some "Success: the reversed string. Failure: an empty string and sets the @error flag to non-zero."
    parameters := [
      .required "$sString" "String to reverse."] },
  { name := "_StringTitleCase"
    label := "_StringTitleCase ( $sString )"
    documentation := "Changes a string to title case."
    returns := some "The string with the first letter of each word capitalised."
    parameters := [
      .required "$sString" "Input string."] },
  { name := "_StringToHex"
    label := "_StringToHex ( $sString )"
    documentation := "Convert a string to a hex string."
    returns := some "Success: a hex string. Failure: -1 and sets the @error flag to non-zero."
    parameters := [
      .required "$sString" "String to be converted."] }]

/-- The bundled module `String`. -/
def strings : Library :=
  .ofSignatures "String" (some "String.au3") stringsSignatures

end AutoItDocs.Library
