import AutoItDocs.Server.Rpc
/-!
The server on standard input and output. It reads messages, hands them to the session with the files
that the session may look at, and writes what the session answers.
-/
namespace AutoItDocs.Main

/-- The tree with a file read from disk, if there is one to read. -/
def readInto (files : FileTree) (path : Path) : IO FileTree :=
  try
    return files.place path (.file (← IO.FS.readBinFile path.text))
  catch _ => return files

/-- Names in a directory; none where there is no directory. -/
def namesIn (path : Path) : IO (List String) :=
  try
    return (← ((← IO.currentDir) / path.text).readDir).toList.map (·.fileName)
  catch _ => return []

/-- The files that settings for a directory may be found in, and the module files that they list. -/
def filesFor (root : Path) : IO FileTree := do
  let mut files := FileTree.empty
  for directory in root.ancestors ++ (← namesIn root).map root.join do
    files ← readInto files (directory.join Settings.fileName)
  let (settings, directory) := Settings.discover files root
  for path in settings.modulePaths directory do
    files ← readInto files path
  return files

/-- Reads header lines up to the empty one, and gives the length that they state. -/
partial def readHeader (input : IO.FS.Stream) (length : Option Nat) : IO (Option Nat) := do
  let line ← input.getLine
  if line.isEmpty then return none
  if line == "\r\n" || line == "\n" then
    match length with
    | some _ => return length
    | none => readHeader input none
  else readHeader input ((Rpc.contentLength? line).or length)

partial def readBody (input : IO.FS.Stream) (length : Nat) (read : ByteArray) : IO ByteArray := do
  if length ≤ read.size then return read
  let part ← input.read (length - read.size).toUSize
  if part.isEmpty then return read
  readBody input length (read ++ part)

def send (output : IO.FS.Stream) (value : Json) : IO Unit := do
  output.putStr (Rpc.frame value)
  output.flush

partial def serve (input output : IO.FS.Stream) (session : Session) : IO Unit := do
  let some length ← readHeader input none | return
  let body ← readBody input length .empty
  match (String.fromUTF8? body).bind Json.parse? with
  | none =>
    send output (Rpc.errorObject .null .parseError)
    serve input output session
  | some value =>
    match Rpc.Envelope.ofJson? value with
    | none => serve input output session
    | some envelope =>
      let files ← match envelope.message with
        | .start (some root) => filesFor root
        | _ => pure .empty
      let outcome := session.step files envelope.message
      for value in Rpc.sent envelope.id outcome do
        send output value
      match outcome.session.phase with
      | .exited => return
      | _ => serve input output outcome.session

end AutoItDocs.Main

def main : IO Unit := do
  AutoItDocs.Main.serve (← IO.getStdin) (← IO.getStdout) .fresh
