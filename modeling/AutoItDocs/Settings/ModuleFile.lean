import AutoItDocs.Files.Tree
import AutoItDocs.Library.Module
import AutoItDocs.Toml.Decode
import AutoItDocs.Toml.Document
/-!
Module files: library modules written in TOML.
-/
namespace AutoItDocs

open Toml (Value)

/-- Why a module file gives no module. -/
inductive ModuleFileError where
  | unreadable (path : Path) (cause : FileError)
  | malformed (path : Path)
  deriving DecidableEq, Repr, Inhabited

def ModuleFileError.message : ModuleFileError → String
  | .unreadable path cause => "failed to read module file '" ++ path.text ++ "': " ++ cause.message
  | .malformed path => "failed to parse module file '" ++ path.text ++ "'"

def Parameter.ofToml? (value : Value) : Option Parameter := do
  let fields ← value.fields?
  return {
    label := ← fields.read? 0 "label" "" Value.text?
    documentation := ← fields.read? 1 "documentation" "" Value.text?
    optional := ← fields.read? 2 "optional" false Value.truth?
    default := ← fields.readOptional? 3 "default" Value.text? }

/-- A signature needs a name. -/
def Signature.ofToml? (value : Value) : Option Signature := do
  let fields ← value.fields?
  return {
    name := ← (fields.get? 0 "name").bind Value.text?
    label := ← fields.read? 1 "label" "" Value.text?
    documentation := ← fields.read? 2 "documentation" "" Value.text?
    returns := ← fields.readOptional? 3 "returns" Value.text?
    parameters := ← fields.read? 4 "parameters" [] (Value.listOf? Parameter.ofToml?) }

namespace Library

/-- The module that a document describes. -/
def ofToml? (document : Toml.Entries) : Option Library := do
  let fields := Value.Fields.named document
  return .ofSignatures
    (← fields.read? 0 "name" "" Value.text?)
    (← fields.readOptional? 1 "include" Value.text?)
    (← fields.read? 2 "functions" [] (Value.listOf? Signature.ofToml?))

/-- Names a module without a name after its file. -/
def namedAfter (l : Library) (path : Path) : Library :=
  if l.name = "" then { l with name := path.stem?.getD "" } else l

/-- Reads a module file, whose document `parse` reads. -/
def load (files : FileTree) (path : Path) (parse : String → Option Toml.Entries := Toml.parse?) :
    Except ModuleFileError Library :=
  match files.readText path with
  | .error cause => .error (.unreadable path cause)
  | .ok text =>
    match (parse text).bind ofToml? with
    | none => .error (.malformed path)
    | some l => .ok (l.namedAfter path)

end Library

end AutoItDocs
