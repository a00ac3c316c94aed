import AutoItDocs.Library.Module
/-!
Functions of the header for files.
-/
namespace AutoItDocs.Library

def filesSignatures : List Signature := [
  { name := "_FileCountLines"
    label := "_FileCountLines ( $sFilePath )"
    documentation := "Returns the number of lines in the specified file."
    returns := some (Markdown.clauses ["Success: number of lines in the file.", "Failure: 0 and sets the @error flag to non-zero."])
    parameters := [
      .required "$sFilePath" "Path and filename of the file to be read."] },
  { name := "_FileListToArray"
    label := "_FileListToArray ( $sFilePath [, $sFilter = \"*\" [, $iFlag = $FLTA_FILESFOLDERS [, $bReturnPath = False]]] )"
    documentation := "Lists files and\\or folders in a specified folder (Similar to using Dir with the /B Switch)."
    returns := some "Success: a 1-based array containing the files and/or folders."
    parameters := [
      .required "$sFilePath" "Folder to generate filelist for.",
      .defaulted "$sFilter" "The filter to use, wildcards (* and ?) are supported." "\"*\"",
      .defaulted "$iFlag" "Specifies whether to return files, folders or both." "$FLTA_FILESFOLDERS",
      .defaulted "$bReturnPath" "If True the full path is appended to the file\\folder name." "False"] },
  { name := "_FileReadToArray"
    label := "_FileReadToArray ( $sFilePath, ByRef $vReturn [, $iFlags = $FRTA_COUNT [, $sDelimiter = \"\"]] )"
    documentation := "Reads the specified file into an array."
    returns := some "Success: 1. Failure: 0 and sets the @error flag to non-zero."
    parameters := [
      .required "$sFilePath" "Path and filename of the file to be read.",
      .required "$vReturn" "Variable to hold returned data.",
      .defaulted "$iFlags" "Add multiple values together as required." "$FRTA_COUNT",
      .defaulted "$sDelimiter" "Used to further split each line into a 2D array." "\"\""] },
  { name := "_FileWriteLog"
    label := "_FileWriteLog ( $sLogPath, $sLogMsg [, $iFlag = -1] )"
    documentation := "Writes current date, time and the specified text to a log file."
    returns := some "Success: 1. Failure: 0 and sets the @error flag to non-zero."
    parameters := [
      .required "$sLogPath" "Path and filename of the file to be written to, or a file handle.",
      .required "$sLogMsg" "Message to be written to the log file.",
      .defaulted "$iFlag" "Flag that defines if $sLogMsg will be written to the end of file, or to the beginning." "-1"] },
  { name := "_PathSplit"
    label := "_PathSplit ( $sFilePath, ByRef $sDrive, ByRef $sDir, ByRef $sFileName, ByRef $sExtension )"
    documentation := "Splits a path into the drive, directory, file name and file extension parts. An empty string is set if a part is missing."
    returns := some "An array with 5 elements: the full path, drive, directory, file name and extension."
    parameters := [
      .required "$sFilePath" "The path to be split.",
      .required "$sDrive" "String to hold the drive.",
      .required "$sDir" "String to hold the directory.",
      .required "$sFileName" "String to hold the file name.",
      .required "$sExtension" "String to hold the file extension."] }]

/-- The bundled module `File`. -/
def files : Library :=
  .ofSignatures "File" (some "File.au3") filesSignatures

end AutoItDocs.Library
