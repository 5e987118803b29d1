import SurfaceDiff.Archive.Load
import SurfaceDiff.Command.LogFormat
import SurfaceDiff.Command.Request
import SurfaceDiff.Comparison
import SurfaceDiff.Report.Console
import SurfaceDiff.Report.Json
import SurfaceDiff.Report.SummaryTable
import SurfaceDiff.Settings

/-!
Contract: one run of the command, from its arguments to its output and its exit code.

Owns: the order of its steps, which stream gets what, and the exit codes.
Does not own: any access to a disk, an environment or a clock; all that is handed in, and so are the
libraries that the command is built on.

The report goes to the standard output; the log, the closing table and faults of the archives go to
the standard error, which takes every text. The standard output may refuse a line of a report for the
eye, and then the run fails there.
-/

namespace SurfaceDiff.Command

open Text

/-- The libraries that the command is built on. Texts for the two streams can be rendered differently. -/
structure Libraries where
  parse : Parser
  loadSettings : Settings.Loader
  terminal : Terminal
  errorTerminal : Terminal
  platform : Platform

/-- What surrounds a run: variables, the settings file, the files, the time to log, and the stream for
the report. -/
structure Surroundings where
  environment : List (String × String) := []
  settingsFile : Option (List UInt8) := none
  lookUp : Files.Path → Files.Found
  time : String := ""
  stdout : Stream

/-- Causes that end a run as an error of the program. -/
inductive Failure where
  | settings (cause : Settings.LoadError)
  | logFormat (cause : LogFormat.Refused)
  | load (cause : Archive.LoadError)
  | print (reason : String)
deriving DecidableEq, Repr

def Failure.message : Failure → String
  | settings cause => cause.message
  | logFormat cause => cause.message
  | load cause => cause.message
  | print reason => reason

/-- How a run ends: with an exit code or with a failure. -/
structure Finished where
  result : Except Failure Nat
  stdout : CodePoints := []
  stderr : CodePoints := []

def successCode : Nat := 0

def differencesCode : Nat := 1

def archiveFaultCode : Nat := 3

/-- Which records are written, and how. -/
structure Logging where
  level : Log.Level
  format : String
  time : String

/-- The lines of the events that are severe enough. -/
def Logging.lines (logging : Logging) (events : Array Log.Event) : CodePoints :=
  let records := events.toList.map Log.Event.record
  let shown := records.filter fun record => logging.level.severity ≤ record.level.severity
  .ofString (String.join (shown.filterMap (LogFormat.line? logging.format logging.time)))

/-- How a run ends when a load fails. -/
def endOfLoad (terminal : Terminal) (stderr : CodePoints) (cause : Archive.LoadError) : Finished :=
  if cause.IsArchiveFault then
    { result := .ok archiveFaultCode
      stderr := stderr ++ terminal.render (.markup (Terminal.styled "red"
        (.ofString "Failed to load archive: " ++ terminal.escape (.ofString cause.message))) true) }
  else
    { result := .error (.load cause), stderr }

/-- A setting together with the options. -/
structure Choices where
  json : Bool
  failOnDiff : Bool
  detectChanges : Bool

def exitCode (choices : Choices) (summary : Summary) : Nat :=
  if choices.failOnDiff ∧ summary.HasDifferences then differencesCode else successCode

/-- Compares the surfaces and writes the report in JSON, behind what the standard error holds already.
The lines are in ASCII, so the standard output takes them. -/
def reportJson (logging : Logging) (choices : Choices) (stderr : CodePoints) (left right : Surface) :
    Finished :=
  let run := Surface.compare ⟨Report.Json.sink, choices.detectChanges⟩ #[] left right
  { result := .ok (exitCode choices run.summary)
    stdout := run.state.toList ++ .ofString (Report.Json.summaryLine run.summary)
    stderr := stderr ++ logging.lines run.events ++
      logging.lines #[.runFinished run.summary.entries] }

/-- Compares the surfaces and prints the report, up to the first print that is refused. -/
def reportConsole (libraries : Libraries) (stdout : Stream) (logging : Logging) (choices : Choices)
    (stderr : CodePoints) (left right : Surface) : Finished :=
  let sink := Report.Console.sink libraries.terminal stdout
  let run := Surface.compare ⟨sink, choices.detectChanges⟩ {} left right
  let written := run.state.written.toList
  match run.state.refusal with
  | some reason =>
    { result := .error (.print reason)
      stdout := written
      stderr := stderr ++ logging.lines (run.eventsUpTo run.state.complete) }
  | none =>
    { result := .ok (exitCode choices run.summary)
      stdout := written
      stderr := stderr ++ logging.lines run.events ++
        Report.SummaryTable.text libraries.errorTerminal run.summary left right ++
        logging.lines #[.runFinished run.summary.entries] }

def report (libraries : Libraries) (stdout : Stream) (logging : Logging) (choices : Choices)
    (stderr : CodePoints) (left right : Surface) : Finished :=
  if choices.json then reportJson logging choices stderr left right
  else reportConsole libraries stdout logging choices stderr left right

/-- Loads the base, then the target, and compares them. -/
def loadAndReport (libraries : Libraries) (surroundings : Surroundings) (logging : Logging)
    (choices : Choices) (stderr : CodePoints) (base target : String) : Finished :=
  let left := Archive.load libraries.platform surroundings.lookUp (.ofText base)
  let stderr := stderr ++ logging.lines left.events
  match left.result with
  | .error cause => endOfLoad libraries.errorTerminal stderr cause
  | .ok leftSurface =>
    let right := Archive.load libraries.platform surroundings.lookUp (.ofText target)
    let stderr := stderr ++ logging.lines right.events
    match right.result with
    | .error cause => endOfLoad libraries.errorTerminal stderr cause
    | .ok rightSurface =>
      report libraries surroundings.stdout logging choices stderr leftSurface rightSurface

/-- Compares two archives as the options and the settings say, behind what the standard error holds
already. -/
def diffAs (libraries : Libraries) (surroundings : Surroundings) (options : Options)
    (stderr : CodePoints) (settings : Settings) : Finished :=
  match LogFormat.check settings.logFormat with
  | .error cause => { result := .error (.logFormat cause), stderr }
  | .ok format =>
    let level := if options.verbose then .debug else settings.logLevel
    let choices : Choices := {
      json := options.json
      failOnDiff := options.failOnDiff || settings.failOnDiff
      detectChanges := settings.detectChanges && !options.noChanged }
    loadAndReport libraries surroundings ⟨level, format, surroundings.time⟩ choices stderr
      options.base options.target

/-- Loads the settings and compares two archives. The format of the log is not known before there are
settings, so warnings about their sources are written as they are. -/
def diff (libraries : Libraries) (surroundings : Surroundings) (options : Options) : Finished :=
  let loaded := libraries.loadSettings surroundings.environment surroundings.settingsFile
  match loaded.result with
  | .error cause => { result := .error (.settings cause), stderr := loaded.warnings }
  | .ok settings => diffAs libraries surroundings options loaded.warnings settings

/-- Runs the command with these arguments. -/
def run (libraries : Libraries) (surroundings : Surroundings) (arguments : List String) : Finished :=
  match libraries.parse arguments with
  | .ended code stdout stderr =>
    { result := .ok code, stdout := .ofString stdout, stderr := .ofString stderr }
  | .diff options => diff libraries surroundings options

end SurfaceDiff.Command
