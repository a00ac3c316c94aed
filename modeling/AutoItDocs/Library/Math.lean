import AutoItDocs.Library.Module
/-!
Functions of the header for arithmetic.
-/
namespace AutoItDocs.Library

def mathSignatures : List Signature := [
  { name := "_Degree"
    label := "_Degree ( $iRadians )"
    documentation := "Converts radians to degrees."
    returns := some (Markdown.clauses ["Success: degrees equivalent to the given radians.", "Failure: sets the @error flag to non-zero if the parameter is not a number."])
    parameters := [
      .required "$iRadians" "Radians to be converted into degrees."] },
  { name := "_MathCheckDiv"
    label := "_MathCheckDiv ( $iNum1 [, $iNum2 = 2] )"
    documentation := "Checks if first number is divisible by the second number."
    returns := some (Markdown.clauses ["Success: $MATH_ISNOTDIVISIBLE (1) or $MATH_ISDIVISIBLE (2).", "Failure: -1 and sets the @error flag to 1 if a parameter is not an integer."])
    parameters := [
      .required "$iNum1" "Number to check.",
      .defaulted "$iNum2" "Number to divide by." "2"] },
  { name := "_Max"
    label := "_Max ( $iNum1, $iNum2 )"
    documentation := "Evaluates which of the two numbers is higher."
    returns := some "The higher of the two numbers."
    parameters := [
      .required "$iNum1" "First number.",
      .required "$iNum2" "Second number."] },
  { name := "_Min"
    label := "_Min ( $iNum1, $iNum2 )"
    documentation := "Evaluates which of the two numbers is lower."
    returns := some "The lower of the two numbers."
    parameters := [
      .required "$iNum1" "First number.",
      .required "$iNum2" "Second number."] },
  { name := "_Radian"
    label := "_Radian ( $iDegrees )"
    documentation := "Converts degrees to radians."
    returns := some (Markdown.clauses ["Success: radians equivalent to the given degrees.", "Failure: sets the @error flag to non-zero if the parameter is not a number."])
    parameters := [
      .required "$iDegrees" "Degrees to be converted into radians."] }]

/-- The bundled module `Math`. -/
def math : Library :=
  .ofSignatures "Math" (some "Math.au3") mathSignatures

end AutoItDocs.Library
