import SurfaceDiff.ClassFile.Error
import SurfaceDiff.Files.Found
import SurfaceDiff.Zip.Entry

/-!
Contract: why a surface cannot be loaded.

Owns: the causes, their wording, and which of them are reported as faults of the archive.

A fault of the archive ends a run in good order. The other causes are not foreseen by the command;
they end it as an error of the program.
-/

namespace SurfaceDiff.Archive

inductive LoadError where
  | notFound (path : String)
  | notAnArchive (path : String)
  | unreadableArchive (path words : String)
  | unreadableEntry (path entry : String) (cause : Zip.EntryFault)
  | unreadableFile (path words : String)
  | undecodableClass (path entry : String) (cause : ClassFile.FormatError)
  | nameTooLong (path : String)
  | refused (refusal : Files.Refusal)
  | walkTooDeep
  | undecodableName (cause : Text.Utf8.DecodeError)
  | unsupportedVersion (tenths : Nat)
  | offsetTooLarge
  | raised (cause : Raised)
  | rejectedClass (cause : Rejection)
deriving DecidableEq, Repr

namespace LoadError

/-- The causes that lie in the archive and are reported as such. -/
def IsArchiveFault : LoadError → Prop
  | notFound _ | notAnArchive _ | unreadableArchive .. | unreadableEntry .. | unreadableFile .. |
    undecodableClass .. => True
  | _ => False

instance (error : LoadError) : Decidable error.IsArchiveFault := by
  cases error <;> unfold IsArchiveFault <;> infer_instance

/-- The message without the detail of an entry that cannot be read. -/
def headline : LoadError → String
  | notFound path => "Archive not found: " ++ path
  | notAnArchive path => "Not a valid jar/zip archive: " ++ path
  | unreadableArchive path words => "Cannot read archive " ++ path ++ ": " ++ words
  | unreadableEntry path entry _ => path ++ ": cannot read entry " ++ entry
  | unreadableFile path words => "Cannot read class file " ++ path ++ ": " ++ words
  | undecodableClass path entry cause => path ++ ": cannot decode " ++ entry ++ ": " ++ cause.message
  | nameTooLong path => Files.Path.tooLongMessage path
  | refused refusal => refusal.message
  | walkTooDeep => "maximum recursion depth exceeded"
  | undecodableName cause => cause.message
  | unsupportedVersion tenths => s!"zip file version {tenths / 10}.{tenths % 10}"
  | offsetTooLarge => "cannot fit 'int' into an offset-sized integer"
  | raised cause => cause.message
  | rejectedClass cause => cause.message

def message : LoadError → String
  | unreadableEntry path entry cause =>
    (unreadableEntry path entry cause).headline ++ ": " ++ cause.detail
  | error => error.headline

end LoadError

end SurfaceDiff.Archive
