import SurfaceDiff.Report.Summary
import SurfaceDiff.Text.Quoted

/-!
Contract: the events that a run logs, and the record that each of them writes.

Owns: levels, wording, and where in the program each event is logged.
Does not own: which records are shown, and in what format.

A message consists of words and of arguments. Its template has a mark in the place of each argument.
-/

namespace SurfaceDiff.Log

inductive Level where
  | debug
  | info
  | warning
deriving DecidableEq, Repr

def Level.name : Level → String
  | .debug => "DEBUG"
  | .info => "INFO"
  | .warning => "WARNING"

/-- Levels by increasing severity. -/
def Level.severity : Level → Nat
  | .debug => 10
  | .info => 20
  | .warning => 30

inductive Event where
  | settingsLoaded (detectChanges failOnDiff : Bool)
  | versionedEntrySkipped (entry : String)
  | moduleDescriptorSkipped (entry : String)
  | surfaceLoaded (types packages : Nat) (source : String)
  | repeatedKey (key : Text.CodePoints)
  | enumBodiesSkipped (qualifiedName : String)
  | surfacesCompared (summary : Summary)
  | runFinished (entries : Int)
deriving DecidableEq, Repr

/-- What the words of a message are about. -/
inductive Argument where
  | count (value : Int)
  | truth (value : Bool)
  | name (text : String)
  | path (text : String)
  | key (text : Text.CodePoints)
deriving DecidableEq, Repr

namespace Argument

def truthName (value : Bool) : String :=
  if value then "True" else "False"

/-- What stands in a template in its place. -/
def mark : Argument → String
  | count _ => "%d"
  | truth _ | name _ | path _ => "%s"
  | key _ => "%r"

/-- How a message shows it. -/
def shown : Argument → String
  | count value => toString value
  | truth value => truthName value
  | name text | path text => text
  | key text => Text.Quoted.encode text

/-- How a list of arguments shows it. -/
def listed : Argument → String
  | count value => toString value
  | truth value => truthName value
  | name text => Text.Quoted.encodeString text
  | path text => "PosixPath(" ++ Text.Quoted.encodeString text ++ ")"
  | key text => Text.Quoted.encode text

/-- A list of arguments; a comma follows one that stands alone. -/
def listText (arguments : List Argument) : String :=
  match arguments with
  | [argument] => "(" ++ argument.listed ++ ",)"
  | _ => "(" ++ ", ".intercalate (arguments.map listed) ++ ")"

end Argument

inductive Part where
  | words (text : String)
  | about (subject : Argument)
deriving DecidableEq, Repr

namespace Part

def inMessage : Part → String
  | words text => text
  | about subject => subject.shown

def inTemplate : Part → String
  | words text => text
  | about subject => subject.mark

def argument? : Part → Option Argument
  | words _ => none
  | about subject => some subject

end Part

/-- Where in the program an event is logged: the logger, the function and the line. -/
structure Origin where
  logger : String
  function : String
  line : Nat
deriving DecidableEq, Repr

namespace Origin

/-- A logger has the name of its module behind those of the packages around it. -/
def moduleName (origin : Origin) : String :=
  (origin.logger.splitOn ".").getLastD origin.logger

def fileName (origin : Origin) : String :=
  origin.moduleName ++ ".py"

end Origin

structure Record where
  level : Level
  origin : Origin
  parts : List Part
deriving DecidableEq, Repr

namespace Record

def logger (record : Record) : String := record.origin.logger

def message (record : Record) : String :=
  String.join (record.parts.map Part.inMessage)

def template (record : Record) : String :=
  String.join (record.parts.map Part.inTemplate)

def arguments (record : Record) : List Argument :=
  record.parts.filterMap Part.argument?

end Record

namespace Event

def level : Event → Level
  | surfaceLoaded .. => .info
  | _ => .debug

def settingsLogger : String := "apidiff_core.config"

def archiveLogger : String := "apidiff_core.loader.archive_loader"

def reconciliationLogger : String := "apidiff_core.diff.reconcile"

def comparisonLogger : String := "apidiff_core.diff.engine"

def commandLogger : String := "apidiff_cli.app"

def origin : Event → Origin
  | settingsLoaded .. => ⟨settingsLogger, "load_settings", 42⟩
  | versionedEntrySkipped _ => ⟨archiveLogger, "_is_api_entry", 45⟩
  | moduleDescriptorSkipped _ => ⟨archiveLogger, "_is_api_entry", 48⟩
  | surfaceLoaded .. => ⟨archiveLogger, "load_archive", 122⟩
  | repeatedKey _ => ⟨reconciliationLogger, "_index_first", 32⟩
  | enumBodiesSkipped _ => ⟨comparisonLogger, "_compare_type", 149⟩
  | surfacesCompared _ => ⟨comparisonLogger, "compare", 110⟩
  | runFinished _ => ⟨commandLogger, "diff", 132⟩

open Argument in
def parts : Event → List Part
  | settingsLoaded detectChanges failOnDiff =>
    [.words "Loaded settings: detect_changes=", .about (truth detectChanges),
      .words " fail_on_diff=", .about (truth failOnDiff)]
  | versionedEntrySkipped entry =>
    [.words "Skipping multi-release entry ", .about (name entry)]
  | moduleDescriptorSkipped entry => [.words "Skipping ", .about (name entry)]
  | surfaceLoaded types packages source =>
    [.words "Loaded ", .about (count types), .words " types in ", .about (count packages),
      .words " packages from ", .about (path source)]
  | repeatedKey text => [.words "Ignoring duplicate item for key ", .about (key text)]
  | enumBodiesSkipped qualifiedName =>
    [.words "Skipping body comparison for enum ", .about (name qualifiedName)]
  | surfacesCompared summary =>
    [.words "Compared ", .about (count summary.packagesCompared),
      .words " packages, ", .about (count summary.typesCompared),
      .words " types, ", .about (count summary.methodsCompared),
      .words " methods; ", .about (count summary.entries), .words " entries emitted"]
  | runFinished entries =>
    [.words "Diff finished with ", .about (count entries), .words " report entries"]

def record (event : Event) : Record :=
  ⟨event.level, event.origin, event.parts⟩

end Event

end SurfaceDiff.Log
