import SurfaceDiff.Archive.Error
import SurfaceDiff.Files.Found
import SurfaceDiff.Log
import SurfaceDiff.Text.CodePoint

/-!
Contract: the entries of an archive or a directory, in the order in which they are read.

Owns: which entries belong to the API, and the two sources of entries.

Nothing of an entry but its name is looked at before it is known to belong to the API; but an entry
with an obstacle ends a load wherever it belongs.
-/

namespace SurfaceDiff.Archive

/-- An entry by name, with the reading of its bytes, and what keeps it from being looked at, if
anything does. -/
structure Entry where
  name : String
  obstacle : Option LoadError := none
  read : Unit → Except LoadError (List UInt8)

/-- What the name of an entry says about it. -/
inductive EntryKind where
  | foreign
  | versioned
  | moduleDescriptor
  | api
deriving DecidableEq, Repr

def classSuffix : String := ".class"

/-- Entries below it override others for one version of the platform. -/
def versionedRoot : String := "META-INF/versions/"

def moduleDescriptorName : String := "module-info.class"

/-- The characters after the last slash. -/
def lastSegment (name : String) : String :=
  String.ofList (name.toList.reverse.takeWhile (· ≠ '/')).reverse

def EntryKind.ofName (name : String) : EntryKind :=
  if ¬ classSuffix.toList <:+ name.toList then .foreign
  else if versionedRoot.toList <+: name.toList then .versioned
  else if lastSegment name = moduleDescriptorName then .moduleDescriptor
  else .api

/-- The event that the skipping of an entry logs, if any. -/
def EntryKind.skipEvent? (name : String) : EntryKind → Option Log.Event
  | foreign | api => none
  | versioned => some (.versionedEntrySkipped name)
  | moduleDescriptor => some (.moduleDescriptorSkipped name)

/-- What becomes of an exception inside an archive. -/
def ofRaised (path : String) (cause : Raised) : LoadError :=
  match cause.kind with
  | .notAnArchive => .notAnArchive path
  | .system => .unreadableArchive path cause.message
  | .corruptStream | .endOfFile | .notImplemented | .runtime | .other _ => .raised cause

/-- What becomes of an exception while an entry is read, where more kinds are handled. -/
def ofEntryRaised (path name : String) (cause : Raised) : LoadError :=
  match cause.kind with
  | .corruptStream | .endOfFile | .notImplemented | .runtime =>
    .unreadableEntry path name (.raised cause)
  | .notAnArchive | .system | .other _ => ofRaised path cause

def zipError (path name : String) : Zip.ReadError → LoadError
  | .notAnArchive => .notAnArchive path
  | .invalidOffset => .unreadableArchive path "[Errno 22] Invalid argument"
  | .offsetTooLarge => .offsetTooLarge
  | .undecodableName cause => .undecodableName cause
  | .unreadable cause => .unreadableEntry path name cause
  | .raised cause => ofEntryRaised path name cause

def openError (path : String) : Zip.OpenError → LoadError
  | .notAnArchive => .notAnArchive path
  | .undecodableName cause => .undecodableName cause
  | .unsupportedVersion tenths => .unsupportedVersion tenths

/-- An entry of a zip archive. A name with a slash at its end is that of a directory and no class. -/
def zipEntry (platform : Platform) (path : String) (content : ByteArray) (entry : Zip.Located) :
    Entry where
  name := entry.record.name
  obstacle := (platform.nameFault? entry.record.name).map (ofRaised path)
  read := fun _ =>
    match Zip.Entry.read platform content entry with
    | .ok data => .ok data.data.toList
    | .error cause => .error (zipError path entry.record.name cause)

/-- The entries of a zip archive in the order of its directory. -/
def zipEntries (platform : Platform) (path : String) :
    Except Files.Refusal ByteArray → Except LoadError (List Entry)
  | .error refusal => .error (.unreadableArchive path refusal.message)
  | .ok content =>
    match Zip.Directory.read content with
    | .error cause => .error (openError path cause)
    | .ok located => .ok (located.map (zipEntry platform path content))

/-- The components of a path, in a form that compares by code point. -/
def sortKey (member : Files.Member) : List Text.CodePoints :=
  member.components.map .ofString

/-- The failure to reach what lies at these components below a path, if its own path is too long. -/
def pathFault? (path : Files.Path) (components : List String) : Option LoadError :=
  let whole := path.below components
  if whole.IsTooLong then some (.nameTooLong whole.text) else none

/-- The failure to look at a file, if there is one. -/
def memberFault? (path : Files.Path) (member : Files.Member) : Option LoadError :=
  match pathFault? path member.components, member.content with
  | some cause, _ => some cause
  | none, .error (.unreachable refusal) => some (.refused refusal)
  | none, _ => none

def memberEntry (path : Files.Path) (member : Files.Member) : Entry where
  name := "/".intercalate member.components
  obstacle := memberFault? path member
  read := fun _ =>
    match member.content with
    | .ok content => .ok content.data.toList
    | .error (.unreachable refusal) | .error (.unreadable refusal) =>
      .error (.unreadableFile (path.below member.components).text refusal.message)

/-- Whether a file holds a class, by its name. -/
def holdsClass (member : Files.Member) : Bool :=
  classSuffix.toList.isSuffixOf (member.components.getLastD "").toList

/-- The failure to search a directory, if there is one. -/
def searchFault? (platform : Platform) (path : Files.Path) (directory : Files.Directory) :
    Option LoadError :=
  if platform.deepestWalk.any fun deepest => deepest < directory.components.length then
    some .walkTooDeep
  else
    (pathFault? path directory.components).or (directory.refusal.map .refused)

/-- The class files of a directory, ordered by their paths, component by component. All directories
below it have to be searched first. -/
def directoryEntries (platform : Platform) (path : Files.Path) (contents : Files.Contents) :
    Except LoadError (List Entry) :=
  match contents.directories.findSome? (searchFault? platform path) with
  | some cause => .error cause
  | none =>
    let ordered := (contents.members.filter holdsClass).mergeSort fun first second =>
      (compare (sortKey first) (sortKey second)).isLE
    .ok (ordered.map (memberEntry path))

/-- The entries behind a path, if it leads to an archive or a directory. -/
def entriesOf (platform : Platform) (path : Files.Path) : Files.Found → Except LoadError (List Entry)
  | .missing => .error (.notFound path.text)
  | .nameTooLong => .error (.nameTooLong path.text)
  | .unreachable refusal => .error (.refused refusal)
  | .file content => zipEntries platform path.text content
  | .directory contents => directoryEntries platform path contents

end SurfaceDiff.Archive
