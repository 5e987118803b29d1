import SurfaceDiff.Log
import SurfaceDiff.Rejection
import SurfaceDiff.Text.LowerCase
import SurfaceDiff.Text.Utf8

/-!
Contract: the settings of a run, and the library that loads them.

Owns: the fields with their defaults, the level of the log, the interface `Settings.Loader`, and what is
documented of a loader.
Does not own: how the loader finds the value of a field.
-/

namespace SurfaceDiff

structure Settings where
  detectChanges : Bool := true
  failOnDiff : Bool := false
  debug : Bool := false
  logFormat : String := "%(asctime)s  %(levelname)-8s  %(name)s  %(message)s"
deriving DecidableEq, Repr

namespace Settings

/-- The least severe level that is logged. -/
def logLevel (settings : Settings) : Log.Level :=
  if settings.debug then .debug else .warning

def detectChangesName : String := "detect_changes"

def failOnDiffName : String := "fail_on_diff"

def debugName : String := "debug"

def logFormatName : String := "log_format"

def fieldNames : List String := [detectChangesName, failOnDiffName, debugName, logFormatName]

/-- What the name of a field has in front in the name of its variable. -/
def variableStart : String := "APIDIFF_"

/-- What the loading of these settings logs. -/
def loadEvents (settings : Settings) : List Log.Event :=
  if settings.debug then [.settingsLoaded settings.detectChanges settings.failOnDiff] else []

/-- Why no settings are loaded. -/
inductive LoadError where
  | undecodableFile (cause : Text.Utf8.DecodeError)
  | rejected (cause : Rejection)
  | raised (message : String)
deriving DecidableEq, Repr

def LoadError.message : LoadError → String
  | undecodableFile cause => cause.message
  | rejected cause => cause.message
  | raised message => message

/-- What a loader gives, and what it writes to the standard error meanwhile. -/
structure Loaded where
  result : Except LoadError Settings
  warnings : Text.CodePoints := []

/-- Loads settings from the variables of the environment and from the settings file, if there is one. -/
abbrev Loader := List (String × String) → Option (List UInt8) → Loaded

/-- The fields, each with its name. -/
inductive IsField : {α : Type} → String → (Settings → α) → Prop where
  | detectChanges : IsField detectChangesName Settings.detectChanges
  | failOnDiff : IsField failOnDiffName Settings.failOnDiff
  | debug : IsField debugName Settings.debug
  | logFormat : IsField logFormatName Settings.logFormat

/-- Two environments agree on the variables that are kept, known by their names in small letters. -/
def AgreeOn (kept : String → Bool) (first second : List (String × String)) : Prop :=
  second.filter (fun pair => kept (Text.lowerCase pair.1)) =
    first.filter fun pair => kept (Text.lowerCase pair.1)

/-- As documented, a field has a variable of its own, whose name can be spelled in capitals or small
letters. Apart from it, a field depends on the settings file, and on those variables to which the values
in there refer. -/
structure Loader.TakesOwnVariables (loader : Loader) (references : List UInt8 → List String) : Prop where
  field : ∀ {α : Type} {name : String} {field : Settings → α}, IsField name field →
    ∀ kept : String → Bool, kept (Text.lowerCase (variableStart ++ name)) = true →
    ∀ file : Option (List UInt8), (∀ bytes ∈ file, ∀ reference ∈ references bytes,
      kept (Text.lowerCase reference) = true) →
    ∀ (first second : List (String × String)) (settings other : Settings), AgreeOn kept first second →
      (loader first file).result = .ok settings → (loader second file).result = .ok other →
      field other = field settings

end Settings

end SurfaceDiff
