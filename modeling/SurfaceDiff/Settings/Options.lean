import SurfaceDiff.Files.Tree
import SurfaceDiff.Settings
import SurfaceDiff.Settings.Options.Fault
import SurfaceDiff.Text.LowerCase

/-!
Contract: options of the search for settings, which a caller gives among the settings themselves.

Owns: their names, their defaults, what their values mean, and which values cannot be used.
Does not own: the search.

An option is known by its exact name. A null leaves it at its default, but for the name of the
settings file, where it says that there is none.
-/

namespace SurfaceDiff.Settings

/-- How settings are searched. -/
structure Options where
  /-- Whether the names of variables have to be spelled exactly. -/
  caseSensitive : Bool := false
  /-- What the name of a variable has in front of that of its field. -/
  variableStart : String := Settings.variableStart
  /-- The paths of the files that are read; those that do not exist are passed over. -/
  files : List Item := [.text ".env"]
  /-- The name of the encoding in which the files are read. -/
  encoding : Value := .text "utf-8"
  /-- Whether a variable without a text counts as absent. -/
  ignoresEmpty : Bool := false
  /-- The text that stands for null in a variable. -/
  nullText : Option String := none
deriving DecidableEq, Repr

namespace Options

def caseName : String := "_case_sensitive"

def startName : String := "_env_prefix"

def startTargetName : String := "_env_prefix_target"

def filesName : String := "_env_file"

def encodingName : String := "_env_file_encoding"

def emptyName : String := "_env_ignore_empty"

def nullName : String := "_env_parse_none_str"

def limitName : String := "_env_nested_max_split"

def argumentsName : String := "_cli_parse_args"

def secretsName : String := "_secrets_dir"

/-- Options of which the value is checked, but changes nothing: these settings are flat and take
neither arguments nor secrets. -/
def checkedNames : List String := [limitName, argumentsName, secretsName]

/-- Options that change nothing, whatever their value. -/
def idleNames : List String := [
  "_env_file_depth", "_env_nested_delimiter", "_env_parse_enums",
  "_nested_model_default_partial_update", "_build_sources", "_cli_prog_name",
  "_cli_settings_source", "_cli_parse_none_str", "_cli_hide_none_type", "_cli_avoid_json",
  "_cli_enforce_required", "_cli_use_class_docs_for_groups", "_cli_exit_on_error", "_cli_prefix",
  "_cli_flag_prefix_char", "_cli_implicit_flags", "_cli_ignore_unknown_args", "_cli_kebab_case",
  "_cli_shortcuts", "_cli_show_env_vars"]

def names : List String :=
  [caseName, startName, startTargetName, filesName, encodingName, emptyName, nullName] ++
    checkedNames ++ idleNames

/-- The targets that have the start put in front of variables. -/
def variableTargets : List Value := [.null, .text "variable", .text "all"]

/-- Checks that the start of variables has a length, as texts, lists and records have. -/
def checkStart : Value → Except Fault Unit
  | .text _ | .list _ | .record _ | .null => .ok ()
  | value => .error (.unsizedStart value.kind)

/-- Checks that names can follow the start of variables, where it is put in front of them. -/
def checkFit (target : Value) : Value → Except Fault Unit
  | .text _ | .null => .ok ()
  | _ => if target ∈ variableTargets then .error .unfitStart else .ok ()

/-- The start of variables that a value asks for. -/
def startOfValue (target value : Value) : String :=
  if target ∉ variableTargets then ""
  else value.text?.getD ({} : Options).variableStart

/-- The paths that a value names: one, or those of a list, or the names of a record. -/
def pathsOfValue : Value → Except Fault (List Item)
  | .text path => .ok [.text path]
  | .list items => .ok items
  | .record names => .ok (names.map .text)
  | .null => .ok []
  | value => .error (.pathsNotListed value.kind)

/-- Whether a name at the start of a path stands for the home of a user. -/
def isHome (name : String) : Bool := name.toList.head? = some '~'

/-- The homes of the caller and of the user who is known everywhere. -/
def knownHomes : List String := ["~", "~root"]

/-- The path of an item. Nothing of interest is found in a home that is known. -/
def pathOfItem : Item → Except Fault Files.Path
  | .other kind => .error (.pathNotAText kind)
  | .text text =>
    let path := Files.Path.ofText text
    let start := if path.root = "" then path.components.take 1 else []
    if start.any fun name => isHome name && name ∉ knownHomes then .error .unknownHome
    else .ok path

/-- Checks that a limit is a number, or a value that says no and so sets none. -/
def checkLimit : Value → Except Fault Unit
  | .boolean _ | .whole _ | .decimal _ => .ok ()
  | value => if value.isAffirmative then .error (.limitNotANumber value.kind) else .ok ()

/-- Checks that arguments are a list, a yes or a no; zero says no, but no number says yes. -/
def checkArguments : Value → Except Fault Unit
  | .null | .boolean _ | .list _ | .whole 0 | .decimal (some 0) => .ok ()
  | value => .error (.argumentsNotListed value.kind)

/-- The value of an option; null stands for an option that is not given. -/
def valueAmong (values : List (String × Value)) (name : String) : Value :=
  (values.lookup name).getD .null

/-- The options among the values that a caller gives. -/
def ofValues (values : List (String × Value)) : Except Fault Options := do
  let defaults : Options := {}
  let value := valueAmong values
  checkLimit (value limitName)
  checkStart (value startName)
  let files ← ((values.lookup filesName).map pathsOfValue).getD (.ok defaults.files)
  return {
    caseSensitive := (value caseName).isAffirmative
    variableStart := startOfValue (value startTargetName) (value startName)
    files
    encoding :=
      if (value encodingName).isAffirmative then value encodingName else defaults.encoding
    ignoresEmpty := (value emptyName).isAffirmative
    nullText := (value nullName).text? }

/-- The fault of a path that cannot be followed. -/
def unreachable? (path : Files.Path) : Files.Found → Option Fault
  | .nameTooLong => some (.nameTooLong path.text)
  | .unreachable refusal => some (.refused refusal)
  | .missing | .file _ | .directory _ => none

/-- Checks, once the files are read, what the search needs besides. -/
def checkSearch (lookUp : Files.Path → Files.Found) (values : List (String × Value)) :
    Except Fault Unit := do
  let value := valueAmong values
  checkArguments (value argumentsName)
  checkFit (value startTargetName) (value startName)
  let secrets ← (← pathsOfValue (value secretsName)).mapM pathOfItem
  match secrets.findSome? fun path => unreachable? path (lookUp path) with
  | some fault => .error fault
  | none =>
    if secrets.any fun path => lookUp path matches .file _ then .error .secretsInFile else .ok ()

/-- The form of a variable's name in which it is looked up. -/
def key (options : Options) (name : String) : String :=
  if options.caseSensitive then name else Text.lowerCase name

/-- The variable of a field, in the form in which it is looked up. -/
def variableName (options : Options) (field : String) : String :=
  options.key (options.variableStart ++ field)

/-- Whether a variable with this text counts at all. -/
def counts (options : Options) (text : String) : Bool :=
  !(options.ignoresEmpty && text = "")

/-- What the text of a variable offers. -/
def valueOf (options : Options) (text : String) : Value :=
  if options.nullText = some text then .null else .text text

/-- What bytes say in the encoding of the options. -/
def decode (options : Options) (bytes : List UInt8) : Except Fault String :=
  match options.encoding with
  | .text name =>
    (Text.Encoding.ofName name >>= fun encoding => encoding.decode bytes).mapError .encoding
  | value => .error (.encodingNotAText value.kind)

/-- What the file of an item says, if there is one. -/
def read? (options : Options) (lookUp : Files.Path → Files.Found) (item : Item) :
    Except Fault (Option String) := do
  let path ← pathOfItem item
  match lookUp path with
  | .file (.ok content) => (options.decode content.data.toList).map some
  | .file (.error refusal) | .unreachable refusal => .error (.refused refusal)
  | .nameTooLong => .error (.nameTooLong path.text)
  | .missing | .directory _ => .ok none

/-- What the files say that there are. -/
def contents (options : Options) (lookUp : Files.Path → Files.Found) :
    Except Fault (List String) := do
  return (← options.files.mapM (options.read? lookUp)).filterMap id

end Options

end SurfaceDiff.Settings
