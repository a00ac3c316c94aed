import AutoItDocs.Catalog
import AutoItDocs.Settings.ModuleFile
/-!
Settings files: which modules are documented and how collisions between them are resolved. A
settings file that is missing or malformed stands for the default settings.
-/
namespace AutoItDocs

/-- Settings for the catalog. -/
structure CatalogSettings where
  collisions : Option MergePolicy := none
  /-- Names of bundled modules to leave out, up to the case of ASCII letters. -/
  disabled : Option (List String) := none
  /-- Module files to merge after the bundled modules, relative to the settings file. -/
  modules : Option (List String) := none
  deriving DecidableEq, Repr, Inhabited

structure Settings where
  registry : Option CatalogSettings := none
  deriving DecidableEq, Repr, Inhabited

open Toml (Value)

def MergePolicy.ofWord? (word : String) : Option MergePolicy :=
  if word = "last-wins" then some .lastWins
  else if word = "first-wins" then some .firstWins
  else if word = "error" then some .refuse
  else none

/-- An array of the fields has to have all of them. -/
def CatalogSettings.ofToml? (value : Value) : Option CatalogSettings := do
  let fields ← value.fields?
  if let .listed values := fields then
    if values.length < 3 then none
  return {
    collisions := ← fields.readOptional? 0 "collisions" fun v => v.choice?.bind MergePolicy.ofWord?
    disabled := ← fields.readOptional? 1 "disabled" (Value.listOf? Value.text?)
    modules := ← fields.readOptional? 2 "modules" (Value.listOf? Value.text?) }

namespace Settings

def ofToml? (document : Toml.Entries) : Option Settings := do
  let registry ← (Value.Fields.named document).readOptional? 0 "registry" CatalogSettings.ofToml?
  return { registry }

/-- Reads a settings file, whose document `parse` reads. -/
def load (files : FileTree) (path : Path) (parse : String → Option Toml.Entries := Toml.parse?) :
    Settings :=
  match files.readText path with
  | .error _ => {}
  | .ok text => ((parse text).bind ofToml?).getD {}

def fileName : String := "settings.toml"

/-- Whether a directory has a settings file. -/
def isIn (files : FileTree) (directory : Path) : Bool := files.isFile (directory.join fileName)

/-- The directory whose settings file is used for a start directory: the nearest of it and those
above it that has one, else a directory right below it that has one. -/
def directoryFor? (files : FileTree) (start : Path) : Option Path :=
  (start.ancestors.find? (isIn files)).or ((files.childDirectories start).find? (isIn files))

/-- The settings for a start directory and the directory they come from. Without a settings file
they are the default settings of the start directory itself. -/
def discover (files : FileTree) (start : Path)
    (parse : String → Option Toml.Entries := Toml.parse?) : Settings × Path :=
  match directoryFor? files start with
  | some directory => (load files (directory.join fileName) parse, directory)
  | none => ({}, start)

def policy (s : Settings) : MergePolicy := (s.registry.bind (·.collisions)).getD .lastWins

def disabled (s : Settings) : List String := (s.registry.bind (·.disabled)).getD []

def modules (s : Settings) : List String := (s.registry.bind (·.modules)).getD []

/-- The bundled modules that are not disabled. -/
def enabledModules (s : Settings) : List Library :=
  Library.bundled.filter fun l => !s.disabled.any (Library.sameName · l.name)

/-- The paths of the module files, for settings that come from a directory. -/
def modulePaths (s : Settings) (directory : Path) : List Path := s.modules.map directory.join

/-- The module files that can be read, in the order given. -/
def loadedModules (s : Settings) (directory : Path) (files : FileTree)
    (parse : String → Option Toml.Entries := Toml.parse?) : List Library :=
  (s.modulePaths directory).filterMap fun path => (Library.load files path parse).toOption

/-- The catalog that settings describe. Where no collision is allowed and there is one, the last
record wins, so that there is always something to show. -/
def catalog (s : Settings) (directory : Path) (files : FileTree)
    (parse : String → Option Toml.Entries := Toml.parse?) : Catalog :=
  let modules := s.enabledModules ++ s.loadedModules directory files parse
  match Catalog.build s.policy modules with
  | .ok c => c
  | .error _ => Catalog.buildOrEmpty .lastWins modules

end Settings

end AutoItDocs
