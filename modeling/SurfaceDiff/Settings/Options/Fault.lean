import SurfaceDiff.Files.Found
import SurfaceDiff.Settings.Value
import SurfaceDiff.Text.Encoding

/-!
Contract: what makes options of the search for settings impossible to follow.

Owns: the causes and their wording.
-/

namespace SurfaceDiff.Settings.Options

/-- What a caller asked for cannot be done. -/
inductive Fault where
  /-- The limit on the splits of a name is no number. -/
  | limitNotANumber (kind : Kind)
  /-- The start of variables is of a kind that has no length. -/
  | unsizedStart (kind : Kind)
  /-- What should list paths is of a kind that lists nothing. -/
  | pathsNotListed (kind : Kind)
  /-- A path is something else than a text. -/
  | pathNotAText (kind : Kind)
  /-- A path starts at the home of a user who is not known. -/
  | unknownHome
  | nameTooLong (path : String)
  | refused (refusal : Files.Refusal)
  /-- The name of an encoding is something else than a text. -/
  | encodingNotAText (kind : Kind)
  /-- A settings file cannot be read in the encoding. -/
  | encoding (cause : Text.Encoding.Fault)
  /-- Arguments come neither as a list nor as a yes or no. -/
  | argumentsNotListed (kind : Kind)
  /-- The start of variables is a list or a record, and no name can follow it. -/
  | unfitStart
  /-- Secrets are to be found in a file, not in a directory. -/
  | secretsInFile
deriving DecidableEq, Repr

def Fault.message : Fault → String
  | limitNotANumber kind => s!"unsupported operand type(s) for -: '{kind.word}' and 'int'"
  | unsizedStart kind => s!"object of type '{kind.word}' has no len()"
  | pathsNotListed kind => s!"'{kind.word}' object is not iterable"
  | pathNotAText kind => s!"expected str, bytes or os.PathLike object, not {kind.word}"
  | unknownHome => "Could not determine home directory."
  | nameTooLong path => Files.Path.tooLongMessage path
  | refused refusal => refusal.message
  | encodingNotAText kind =>
    s!"open() argument 'encoding' must be str or None, not {kind.word}"
  | encoding cause => cause.message
  | argumentsNotListed kind =>
    s!"cli_parse_args must be a list or tuple, received <class '{kind.word}'>"
  | unfitStart =>
    "error getting value for field \"detect_changes\" from source \"EnvSettingsSource\""
  | secretsInFile => "secrets_dir must reference a directory, not a file"

end SurfaceDiff.Settings.Options
