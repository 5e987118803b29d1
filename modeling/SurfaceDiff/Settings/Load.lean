import SurfaceDiff.Settings
import SurfaceDiff.Settings.Options
import SurfaceDiff.Settings.Reference

/-!
Contract: the settings of a run, put together from their sources.

Owns: the order of the sources, the refusal of unknown names, and a loader.

Values given by the caller come first, then environment variables, then the settings files, then the
defaults. A value that another source outranks is not checked. The caller can spell a name in
capitals or small letters; of values given under several spellings, the first counts. Unknown names
are refused from the caller and in the file, but not in the environment. In the file, a name without
a value is not looked at, nor is a field's own name where it is not that of its variable.
-/

namespace SurfaceDiff.Settings

/-- Where values come from: the caller, the environment, and what the settings files say, of which
the later ones count more. -/
structure Sources where
  options : Options := {}
  overrides : List (String × Value) := []
  environment : List (String × String) := []
  files : List String := []

namespace Sources

/-- The sources of a caller who gives options of the search among the values. -/
def ofCaller (lookUp : Files.Path → Files.Found) (values : List (String × Value))
    (environment : List (String × String)) : Except Options.Fault Sources := do
  let options ← Options.ofValues values
  let files ← options.contents lookUp
  Options.checkSearch lookUp values
  let overrides := values.filter fun (name, _) => name ∉ Options.names
  return { options, overrides, environment, files }

/-- The texts of the environment, under names in the form in which they are looked up. -/
def environmentTexts (sources : Sources) : Assignments String :=
  let counted := (Assignments.ofList sources.environment).filterValues sources.options.counts
  counted.renamed sources.options.key

/-- The texts of a settings file, under names in the form in which they are looked up. -/
def textsOfFile (sources : Sources) (file : String) : Assignments (Option String) :=
  let bindings := (Dotenv.parse file).filterMap Dotenv.Statement.binding?
  let texts := Reference.resolve (.ofList sources.environment) bindings
  let counted := texts.filterValues fun text => text.all sources.options.counts
  counted.renamed sources.options.key

/-- The texts of all settings files. -/
def fileTexts (sources : Sources) : Assignments (Option String) :=
  .ofList (sources.files.flatMap fun file => (sources.textsOfFile file).pairs)

/-- The value of a field from the first source that has one. -/
def value? (sources : Sources) (field : String) : Option Value :=
  let options := sources.options
  let given := sources.overrides.find? fun (name, _) => Text.lowerCase name = field
  let text? := (sources.environmentTexts.find? (options.variableName field)).or
    (sources.fileTexts.find? (options.variableName field)).join
  (given.map Prod.snd).or (text?.map options.valueOf)

/-- Names in the file that are not looked at, or that belong to a field. -/
def knownNames (sources : Sources) : List String :=
  fieldNames ++ fieldNames.map sources.options.variableName

/-- The names that no field has, those of the file first. -/
def unknownNames (sources : Sources) : List String :=
  let known := sources.knownNames
  let inFile := sources.fileTexts.pairs.filterMap fun (name, text) =>
    if text.getD "" = "" ∨ name ∈ known then none else some name
  let given := sources.overrides.filterMap fun (name, _) =>
    if Text.lowerCase name ∈ fieldNames then none else some name
  (inFile ++ given).eraseDups

/-- A warning for each statement of the settings files that cannot be read. -/
def warnings (sources : Sources) : List String :=
  let statements := sources.files.flatMap Dotenv.parse
  (statements.filterMap Dotenv.Statement.unreadableLine?).map fun line =>
    s!"python-dotenv could not parse statement starting at line {line}"

end Sources

/-- Reads a field; without a value it keeps its default. -/
def readField {α : Type} (sources : Sources) (field : String) (default : α)
    (accept : Value → Except Fault α) : α × List FieldFault :=
  match (sources.value? field).map accept with
  | none => (default, [])
  | some (.ok value) => (value, [])
  | some (.error fault) => (default, [⟨field, fault⟩])

/-- The settings, unless a value or a name is refused. -/
def ofSources (sources : Sources) : Except Rejection Settings :=
  let defaults : Settings := {}
  let (detectChanges, detectFaults) :=
    readField sources detectChangesName defaults.detectChanges Value.toBool
  let (failOnDiff, failFaults) :=
    readField sources failOnDiffName defaults.failOnDiff Value.toBool
  let (debug, debugFaults) := readField sources debugName defaults.debug Value.toBool
  let (logFormat, formatFaults) :=
    readField sources logFormatName defaults.logFormat Value.toText
  let unknown := sources.unknownNames.map fun name => ⟨name, .unknownName⟩
  Rejection.guard .settings
    (detectFaults ++ failFaults ++ debugFaults ++ formatFaults ++ unknown)
    ⟨detectChanges, failOnDiff, debug, logFormat⟩

/-- The sources of a run, whose settings file has to be in UTF-8. -/
def Sources.ofRun (environment : List (String × String)) (settingsFile : Option (List UInt8)) :
    Except Text.Utf8.DecodeError Sources := do
  return { environment, files := ← settingsFile.toList.mapM Text.Utf8.decode }

/-- Loads the settings of a run. -/
def loader : Loader := fun environment settingsFile =>
  match Sources.ofRun environment settingsFile with
  | .error cause => { result := .error (.undecodableFile cause) }
  | .ok sources =>
    { result := (ofSources sources).mapError .rejected
      warnings := .ofString (String.join (sources.warnings.map (· ++ "\n"))) }

end SurfaceDiff.Settings
