import AutoItDocs.Library.Module
/-!
Functions of the header for dates and times.
-/
namespace AutoItDocs.Library

def dateFormatText : String :=
  "Input date in the format \"YYYY/MM/DD[ HH:MM:SS]\"."

def typeCodesText : String :=
  "D = day, M = month, Y = year, w = week, h = hour, n = minute, s = second."

def datesSignatures : List Signature := [
  { name := "_DateAdd"
    label := "_DateAdd ( $sType, $iNumber, $sDate )"
    documentation := "Calculates a new date/time by adding/subtracting a specified number of time intervals from an initial date/time."
    returns := some (Markdown.clauses ["Success: date/time in the format \"YYYY/MM/DD[ HH:MM:SS]\".", "Failure: 0 and sets the @error flag to non-zero."])
    parameters := [
      .required "$sType" (Markdown.clauses ["Time interval to be used:", typeCodesText]),
      .required "$iNumber" "Number of intervals to be added/subtracted.",
      .required "$sDate" dateFormatText] },
  { name := "_DateDiff"
    label := "_DateDiff ( $sType, $sStartDate, $sEndDate )"
    documentation := "Returns the difference between 2 dates, expressed in the type requested."
    returns := some (Markdown.clauses ["Success: the difference between the 2 dates.", "Failure: 0 and sets the @error flag to non-zero."])
    parameters := [
      .required "$sType" (Markdown.clauses ["Time interval to be used:", typeCodesText]),
      .required "$sStartDate" dateFormatText,
      .required "$sEndDate" dateFormatText] },
  { name := "_IsLeapYear"
    label := "_IsLeapYear ( $iYear )"
    documentation := "Checks a given year to see if it is a leap year."
    returns := some "True if the year is a leap year, False otherwise."
    parameters := [
      .required "$iYear" "Year to check."] },
  { name := "_NowCalc"
    label := "_NowCalc ( )"
    documentation := "Returns the current date and time in the format YYYY/MM/DD HH:MM:SS for use in date calculations."
    returns := some "The current date and time." },
  { name := "_NowDate"
    label := "_NowDate ( )"
    documentation := "Returns the current date in the PC's regional settings format."
    returns := some "The current date." }]

/-- The bundled module `Date`. -/
def dates : Library :=
  .ofSignatures "Date" (some "Date.au3") datesSignatures

end AutoItDocs.Library
