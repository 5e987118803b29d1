import Std.Time
import SurfaceDiff.Command.Plain

/-!
Contract: the program, which gathers what surrounds a run, makes the run, and passes on what it
wrote.

Owns: all access to the disk, the environment and the clock.
-/

namespace SurfaceDiff.Program

open Command

/-- Whether a path leads to a directory; `none` if it leads nowhere. -/
def isDirectory? (path : String) : IO (Option Bool) := do
  try
    let place ← IO.FS.realPath path
    return some ((← place.metadata).type matches .dir)
  catch _ =>
    return none

/-- The bytes of a file, or what the system says when it refuses to read them. -/
def bytesOf (path : String) : IO (Except Files.Refusal ByteArray) := do
  try
    return .ok (← IO.FS.readBinFile path)
  catch refused =>
    return .error ⟨toString refused⟩

/-- What a directory lists, or what the system says when it refuses that; without the right to search it,
nothing. -/
def listingOf (directory : String) : IO (Except Files.Refusal (Array IO.FS.DirEntry)) := do
  try
    return .ok (← (← IO.FS.realPath directory).readDir)
  catch
    | .permissionDenied .. => return .ok #[]
    | refused => return .error ⟨toString refused⟩

/-- All that lies below a directory; `components` leads there from where the walk began. -/
partial def contentsBelow (directory : String) (components : List String) : IO Files.Contents := do
  let listing ←
    match ← listingOf directory with
    | .ok listing => pure listing
    | .error refusal => return { directories := [⟨components, some refusal⟩] }
  let mut contents : Files.Contents := {}
  for entry in listing do
    let below := components ++ [entry.fileName]
    match ← isDirectory? entry.path.toString with
    | some false =>
      let content ← bytesOf entry.path.toString
      let member : Files.Member := ⟨below, content.mapError .unreadable⟩
      contents := { contents with members := contents.members ++ [member] }
    | some true =>
      if (← entry.path.symlinkMetadata).type matches .dir then
        let inner ← contentsBelow entry.path.toString below
        contents := {
          directories := contents.directories ++ { components := below } :: inner.directories
          members := contents.members ++ inner.members }
    | none => pure ()
  return contents

/-- Whether the way from a place fails at a name that is too long; what precedes it has to be there. -/
def failsByLength (place : String) : List String → IO Bool
  | [] => return false
  | component :: rest => do
    match ← isDirectory? place with
    | some true =>
      if Files.Path.longestName < component.utf8ByteSize then return true
      else failsByLength (place ++ "/" ++ component) rest
    | _ => return false

/-- What a path leads to on the disk. -/
def lookUp (path : Files.Path) : IO Files.Found := do
  match ← isDirectory? path.text with
  | some true => return .directory (← contentsBelow path.text [])
  | some false => return .file (← bytesOf path.text)
  | none =>
    let isTooLong ←
      if path.IsTooLong then pure true
      else failsByLength (if path.root = "" then "." else path.root) path.components
    return if isTooLong then .nameTooLong else .missing

/-- A variable in the form `NAME=value`. -/
def assignment? (text : String) : Option (String × String) :=
  match text.splitOn "=" with
  | name :: value@(_ :: _) => some (name, "=".intercalate value)
  | _ => none

/-- The variables of the environment, as the system lists them. -/
def environment : IO (List (String × String)) := do
  try
    let content ← IO.FS.readBinFile "/proc/self/environ"
    return (((String.fromUTF8? content).getD "").splitOn "\x00").filterMap assignment?
  catch _ =>
    return []

/-- The bytes of the settings file, if there is one. -/
def settingsFile : IO (Option (List UInt8)) := do
  try
    return some (← IO.FS.readBinFile ".env").data.toList
  catch _ =>
    return none

/-- What surrounds a run with these arguments. -/
def surroundings (arguments : List String) : IO Surroundings := do
  let paths := arguments.map Files.Path.ofText
  let found ← paths.mapM fun path => return (path, ← lookUp path)
  let now ← Std.Time.PlainDateTime.now
  return {
    environment := ← environment
    settingsFile := ← settingsFile
    lookUp := fun path => (found.lookup path).getD .missing
    time := now.format "uuuu-MM-dd HH:mm:ss,SSS"
    stdout := .utf8 }

/-- The string to print; a lone surrogate has no place in it and is replaced. -/
def printable (points : Text.CodePoints) : String :=
  String.ofList (points.map fun point => point.toChar?.getD '\uFFFD')

end SurfaceDiff.Program

/-- Runs the program; a failure ends it with exit code 1. -/
def main (arguments : List String) : IO UInt32 := do
  let surroundings ← SurfaceDiff.Program.surroundings arguments
  let finished := SurfaceDiff.Command.run .plain surroundings arguments
  IO.print (SurfaceDiff.Program.printable finished.stdout)
  IO.eprint (SurfaceDiff.Program.printable finished.stderr)
  match finished.result with
  | .ok code => return code.toUInt32
  | .error failure =>
    IO.eprintln failure.message
    return 1
