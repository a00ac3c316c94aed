import AutoItDocs.Library.Module
/-!
The functions that are part of the language and need no header.
-/
namespace AutoItDocs.Library

def builtInsSignatures : List Signature := [
  { name := "ConsoleWrite"
    label := "ConsoleWrite ( \"data\" )"
    documentation := "Writes data to the STDOUT stream. Some text editors can read this stream as can other programs which may be expecting data on this stream."
    returns := some "The amount of data written."
    parameters := [
      .required "\"data\"" "The data you wish to output. This may either be text or binary."] },
  { name := "MsgBox"
    label := "MsgBox ( flag, \"title\", \"text\" [, timeout = 0 [, hwnd]] )"
    documentation := "Displays a simple message box with optional timeout."
    returns := some (Markdown.clauses ["Success: the ID of the button pressed.", "Failure: $IDTIMEOUT (-1) if the message box timed out."])
    parameters := [
      .required "flag" "The flag indicates the type of message box and the possible button combinations.",
      .required "\"title\"" "The title of the message box.",
      .required "\"text\"" "The text of the message box.",
      .defaulted "timeout" "Timeout in seconds. After the timeout has elapsed the message box will close automatically." "0",
      .omissible "hwnd" "The window handle to use as the parent for this dialog."] },
  { name := "InputBox"
    label := "InputBox ( \"title\", \"prompt\" [, \"default\" [, \"password char\" [, width = -1 [, height = -1 [, left = Default [, top = Default [, timeout = 0 [, hwnd]]]]]]]] )"
    documentation := "Displays an input box to ask the user to enter a string."
    returns := some "Success: the string that was entered."
    parameters := [
      .required "\"title\"" "The title of the input box.",
      .required "\"prompt\"" "A message to the user indicating what kind of input is expected.",
      .omissible "\"default\"" "The value that the input box starts with.",
      .omissible "\"password char\"" "The character to replace all typed characters with.",
      .defaulted "width" "The width of the window." "-1",
      .defaulted "height" "The height of the window." "-1",
      .defaulted "left" "The left side of the input box. By default, the box is centered." "Default",
      .defaulted "top" "The top of the input box. By default, the box is centered." "Default",
      .defaulted "timeout" "How many seconds to wait before automatically cancelling the InputBox." "0",
      .omissible "hwnd" "The window handle to use as the parent for this dialog."] },
  { name := "StringLen"
    label := "StringLen ( \"string\" )"
    documentation := "Returns the number of characters in a string."
    returns := some "The length of the string."
    parameters := [
      .required "\"string\"" "The string to evaluate."] },
  { name := "StringLeft"
    label := "StringLeft ( \"string\", count )"
    documentation := "Returns a number of characters from the left-hand side of a string."
    returns := some "The leftmost count characters of the string."
    parameters := [
      .required "\"string\"" "The string to evaluate.",
      .required "count" "The number of characters to get."] },
  { name := "StringReplace"
    label := "StringReplace ( \"string\", \"searchstring/start\", \"replacestring\" [, occurrence = 0 [, casesense = 0]] )"
    documentation := "Replaces substrings in a string."
    returns := some "The new string. The number of replacements performed is stored in @extended."
    parameters := [
      .required "\"string\"" "The string to evaluate.",
      .required "\"searchstring/start\"" "The substring to search for or the character position to start the replacement.",
      .required "\"replacestring\"" "The replacement string.",
      .defaulted "occurrence" "The number of times to replace the searchstring. Use a negative occurrence to replace from the right side." "0",
      .defaulted "casesense" (Markdown.clauses ["Flag to indicate if the operations should be case sensitive.", "$STR_NOCASESENSE (0) = not case sensitive"]) "0"] },
  { name := "StringSplit"
    label := "StringSplit ( \"string\", \"delimiters\" [, flag = 0] )"
    documentation := "Splits up a string into substrings depending on the given delimiters."
    returns := some "An array, by default the first element ($aArray[0]) contains the number of strings returned."
    parameters := [
      .required "\"string\"" "The string to evaluate.",
      .required "\"delimiters\"" "One or more characters to use as delimiters (case sensitive).",
      .defaulted "flag" "Changes how the string split works, flags can be added together." "0"] },
  { name := "Sleep"
    label := "Sleep ( delay )"
    documentation := "Pause script execution."
    parameters := [
      .required "delay" "Amount of time to pause (in milliseconds)."] },
  { name := "Run"
    label := "Run ( \"program\" [, \"workingdir\" [, show_flag [, opt_flag]]] )"
    documentation := "Runs an external program."
    returns := some (Markdown.clauses ["Success: the PID of the process that was launched.", "Failure: 0 and sets the @error flag to non-zero."])
    parameters := [
      .required "\"program\"" "The full path of the program (EXE, BAT, COM, or PIF) to run.",
      .omissible "\"workingdir\"" "The working directory. This is not the path to the program.",
      .omissible "show_flag" "The \"show\" flag of the executed program.",
      .omissible "opt_flag" "Controls various options related to how the parent and child process interact."] },
  { name := "WinActivate"
    label := "WinActivate ( \"title\" [, \"text\"] )"
    documentation := "Activates (gives focus to) a window."
    returns := some "Success: the handle of the window."
    parameters := [
      .required "\"title\"" "The title/hWnd/class of the window to activate.",
      .omissible "\"text\"" "The text of the window to activate."] },
  { name := "WinWait"
    label := "WinWait ( \"title\" [, \"text\" [, timeout = 0]] )"
    documentation := "Pauses execution of the script until the requested window exists."
    returns := some "Success: the handle to the requested window."
    parameters := [
      .required "\"title\"" "The title/hWnd/class of the window to check.",
      .omissible "\"text\"" "The text of the window to check.",
      .defaulted "timeout" "Timeout in seconds if the window is not found." "0"] },
  { name := "Send"
    label := "Send ( \"keys\" [, flag = 0] )"
    documentation := "Sends simulated keystrokes to the active window."
    parameters := [
      .required "\"keys\"" "The sequence of keys to send.",
      .defaulted "flag" "Changes how \"keys\" is processed." "0"] },
  { name := "Random"
    label := "Random ( [Min = 0 [, Max = 1 [, Flag = 0]]] )"
    documentation := "Generates a pseudo-random float-type number."
    returns := some "Success: a pseudo-random number."
    parameters := [
      .defaulted "Min" "The smallest number to be generated." "0",
      .defaulted "Max" "The largest number to be generated." "1",
      .defaulted "Flag" "If this is set to 1 then an integer result will be returned." "0"] },
  { name := "Round"
    label := "Round ( expression [, decimalplaces] )"
    documentation := "Returns a number rounded to a specified number of decimal places."
    returns := some "The rounded number."
    parameters := [
      .required "expression" "Any valid numeric expression.",
      .omissible "decimalplaces" "Number indicating how many places to the right of the decimal are included in the rounding."] },
  { name := "Abs"
    label := "Abs ( expression )"
    documentation := "Calculates the absolute value of a number."
    returns := some "The absolute value of the number."
    parameters := [
      .required "expression" "Any valid numeric expression."] }]

/-- The bundled module `AutoIt`. -/
def builtIns : Library :=
  .ofSignatures "AutoIt" none builtInsSignatures

end AutoItDocs.Library
