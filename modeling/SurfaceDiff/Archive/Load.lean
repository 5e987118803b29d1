import SurfaceDiff.Archive.Entry
import SurfaceDiff.ClassFile.Reader
import SurfaceDiff.Grouping

/-!
Contract: the surface of an archive or a directory of class files.

Owns: the reading of entries one by one, up to the first that fails, and what is logged meanwhile.
-/

namespace SurfaceDiff.Archive

/-- What a load gives, and the events logged up to its end. -/
structure Loaded where
  result : Except LoadError Surface
  events : Array Log.Event

/-- Reads an entry of the API and decodes the class in it. -/
def readClass (path : String) (entry : Entry) : Except LoadError ClassDecl :=
  match entry.read () with
  | .error cause => .error cause
  | .ok bytes =>
    match ClassFile.parse bytes with
    | .ok decl => .ok decl
    | .error (.format cause) => .error (.undecodableClass path entry.name cause)
    | .error (.rejected cause) => .error (.rejectedClass cause)

/-- Groups the classes and logs how many there are. -/
def finish (path : String) (classes : List ClassDecl) (events : Array Log.Event) : Loaded :=
  let packages := groupByPackage classes
  { result := .ok ⟨.ofString path, packages⟩
    events := events.push (.surfaceLoaded classes.length packages.length path) }

/-- Goes on with entries after `classes` have been read. An entry with an obstacle ends the load. -/
def loadFrom (path : String) (classes : Array ClassDecl) (events : Array Log.Event) :
    List Entry → Loaded
  | [] => finish path classes.toList events
  | entry :: rest =>
    match entry.obstacle, EntryKind.ofName entry.name with
    | some cause, _ => ⟨.error cause, events⟩
    | none, .api =>
      match readClass path entry with
      | .ok decl => loadFrom path (classes.push decl) events rest
      | .error cause => ⟨.error cause, events⟩
    | none, kind => loadFrom path classes (events ++ (kind.skipEvent? entry.name).toArray) rest

def loadEntries (path : String) (entries : List Entry) : Loaded :=
  loadFrom path #[] #[] entries

/-- Loads the surface behind a path. -/
def load (platform : Platform) (lookUp : Files.Path → Files.Found) (path : Files.Path) : Loaded :=
  match entriesOf platform path (lookUp path) with
  | .ok entries => loadEntries path.text entries
  | .error cause => ⟨.error cause, #[]⟩

end SurfaceDiff.Archive
