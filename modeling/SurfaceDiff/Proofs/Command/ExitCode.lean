import Mathlib
import SurfaceDiff.Command.Plain
import SurfaceDiff.Proofs.Comparison.Session
import SurfaceDiff.Proofs.Report.ConsoleLines
import SurfaceDiff.Proofs.Settings.Environment

/-!
Contract: how a run ends that gets as far as the archives, and what it writes to the standard output.

Owns: `Starts`, the exit code of such a run, and which of its inputs its exit code and its report do
not depend on.
Does not own: which loads fail, what a comparison finds, and how a report is rendered.

A run that starts is `loadAndReport`. What is logged goes to the standard error alone, so neither the
level of the log nor what precedes it matters to the rest. A report for the eye ends the run if the
standard output refuses a line of it, which never happens to a report in JSON.
-/

namespace SurfaceDiff.Command

open Text

/-! ## Runs that start -/

/-- The arguments ask for a comparison, the settings load, and log lines can be written in their
format. -/
structure Starts (libraries : Libraries) (surroundings : Surroundings) (arguments : List String)
    (options : Options) (settings : Settings) : Prop where
  asked : libraries.parse arguments = .diff options
  loaded : (libraries.loadSettings surroundings.environment surroundings.settingsFile).result =
    .ok settings
  format : ∃ format, LogFormat.check settings.logFormat = .ok format

section Inputs

variable (libraries : Libraries) (surroundings : Surroundings) (options : Options) (settings : Settings)

def baseLoad : Archive.Loaded :=
  Archive.load libraries.platform surroundings.lookUp (.ofText options.base)

def targetLoad : Archive.Loaded :=
  Archive.load libraries.platform surroundings.lookUp (.ofText options.target)

def loggingOf : Logging where
  level := if options.verbose then .debug else settings.logLevel
  format := LogFormat.effective settings.logFormat
  time := surroundings.time

def choicesOf : Choices where
  json := options.json
  failOnDiff := options.failOnDiff || settings.failOnDiff
  detectChanges := settings.detectChanges && !options.noChanged

/-- What is written of the sources of the settings. -/
def warningsOf : CodePoints :=
  (libraries.loadSettings surroundings.environment surroundings.settingsFile).warnings

end Inputs

/-- A run that starts writes warnings, if there are any, and then goes on to the archives. -/
theorem Starts.run_eq {libraries : Libraries} {surroundings : Surroundings} {arguments : List String}
    {options : Options} {settings : Settings}
    (starts : Starts libraries surroundings arguments options settings) :
    run libraries surroundings arguments =
      loadAndReport libraries surroundings (loggingOf surroundings options settings)
        (choicesOf options settings) (warningsOf libraries surroundings) options.base
        options.target := by
  obtain ⟨format, checked⟩ := starts.format
  have isFormat : LogFormat.check settings.logFormat =
      .ok (LogFormat.effective settings.logFormat) := by
    unfold LogFormat.check at checked ⊢
    split at checked
    case isTrue hasField => rw [if_pos hasField]
    case isFalse => cases checked
  simp only [run, starts.asked, diff, warningsOf, starts.loaded, diffAs, isFormat]
  rfl

/-! ## How the archives decide -/

/-- The entries of a comparison, as the collecting sink has them. -/
def emitted (detectChanges : Bool) (left right : Surface) : List Entry :=
  (Surface.compare ⟨Collected.sink, detectChanges⟩ {} left right).state.entries.toList

/-- The standard output takes what is printed of a comparison. -/
def IsPrintable (libraries : Libraries) (stdout : Stream) (detectChanges : Bool)
    (left right : Surface) : Prop :=
  ∀ text ∈ Comparison.printedTexts libraries.terminal detectChanges left right,
    stdout.refusal? text = none

instance (libraries : Libraries) (stdout : Stream) (detectChanges : Bool) (left right : Surface) :
    Decidable (IsPrintable libraries stdout detectChanges left right) := by
  unfold IsPrintable
  infer_instance

theorem result_endOfLoad (terminal : Terminal) (stderr : CodePoints) (cause : Archive.LoadError) :
    (endOfLoad terminal stderr cause).result = .ok archiveFaultCode ↔ cause.IsArchiveFault := by
  unfold endOfLoad
  by_cases isFault : cause.IsArchiveFault
  · simp [isFault]
  · simp [isFault]

theorem stdout_endOfLoad (terminal : Terminal) (stderr : CodePoints) (cause : Archive.LoadError) :
    (endOfLoad terminal stderr cause).stdout = [] := by
  unfold endOfLoad
  split
  · rfl
  · rfl

/-- The exit code follows from the entries, whatever the sink that they went to. -/
theorem exitCode_compare {σ : Type} (sink : Sink σ) (state : σ) (choices : Choices)
    (left right : Surface) :
    exitCode choices (Surface.compare ⟨sink, choices.detectChanges⟩ state left right).summary =
      if choices.failOnDiff = true ∧ emitted choices.detectChanges left right ≠ []
        then differencesCode else successCode := by
  have tallies := Comparison.tallies_compare ⟨sink, choices.detectChanges⟩ state left right
  have entries : emitted choices.detectChanges left right =
      (Comparison.findings choices.detectChanges left right).map Finding.entry :=
    Comparison.entries_collect choices.detectChanges left right
  unfold exitCode
  simp only [tallies.differs_iff_entries, entries]

section Reports

variable {libraries : Libraries} {stdout : Stream} {logging : Logging} {choices : Choices}
  {stderr : CodePoints} {left right : Surface}

theorem result_report
    (isTaken : choices.json = true ∨ IsPrintable libraries stdout choices.detectChanges left right) :
    (report libraries stdout logging choices stderr left right).result =
      .ok (if choices.failOnDiff = true ∧ emitted choices.detectChanges left right ≠ []
        then differencesCode else successCode) := by
  unfold report
  split
  case isTrue =>
    unfold reportJson
    simp only [exitCode_compare]
  case isFalse isConsole =>
    have printable := isTaken.resolve_left isConsole
    obtain ⟨written, _, takes⟩ := (Comparison.prints libraries.terminal stdout choices.detectChanges
      left right).text {} rfl
    have unrefused := takes.refusal_eq_none_iff.mpr printable
    unfold reportConsole
    simp only [unrefused, exitCode_compare]

/-- The form of a report does not matter to the exit code, if the report can be printed. -/
theorem result_report_json (printable : IsPrintable libraries stdout choices.detectChanges left right)
    (other : Logging) (json : Bool) (otherStderr : CodePoints) :
    (report libraries stdout other { choices with json } otherStderr left right).result =
      (report libraries stdout logging choices stderr left right).result := by
  rw [result_report (.inr printable)]
  exact result_report (.inr printable)

theorem exitCode_ne_archiveFaultCode (choices : Choices) (summary : Summary) :
    exitCode choices summary ≠ archiveFaultCode := by
  unfold exitCode
  split
  · decide
  · decide

theorem result_report_ne :
    (report libraries stdout logging choices stderr left right).result ≠ .ok archiveFaultCode := by
  unfold report
  split
  · exact fun same => exitCode_ne_archiveFaultCode _ _ (Except.ok.inj same)
  · unfold reportConsole
    dsimp only
    split
    · exact nofun
    · exact fun same => exitCode_ne_archiveFaultCode _ _ (Except.ok.inj same)

/-- A print that is refused ends the run. -/
theorem exists_result_of_refused (isConsole : choices.json = false)
    (refused : ¬IsPrintable libraries stdout choices.detectChanges left right) :
    ∃ reason, (report libraries stdout logging choices stderr left right).result =
      .error (.print reason) := by
  obtain ⟨written, _, takes⟩ := (Comparison.prints libraries.terminal stdout choices.detectChanges
    left right).text {} rfl
  have isRefused := mt takes.refusal_eq_none_iff.mp refused
  obtain ⟨reason, isReason⟩ := Option.ne_none_iff_exists'.mp isRefused
  refine ⟨reason, ?_⟩
  simp only [report, isConsole, Bool.false_eq_true, if_false, reportConsole, isReason]

end Reports

section Loads

variable {libraries : Libraries} {surroundings : Surroundings} {logging : Logging} {choices : Choices}
  {stderr : CodePoints} {base target : String} {cause : Archive.LoadError} {left right : Surface}

theorem loadAndReport_of_base
    (failed : (Archive.load libraries.platform surroundings.lookUp (.ofText base)).result =
      .error cause) :
    loadAndReport libraries surroundings logging choices stderr base target =
      endOfLoad libraries.errorTerminal (stderr ++ logging.lines
        (Archive.load libraries.platform surroundings.lookUp (.ofText base)).events) cause := by
  simp only [loadAndReport, failed]

theorem loadAndReport_of_target
    (loaded : (Archive.load libraries.platform surroundings.lookUp (.ofText base)).result = .ok left)
    (failed : (Archive.load libraries.platform surroundings.lookUp (.ofText target)).result =
      .error cause) :
    loadAndReport libraries surroundings logging choices stderr base target =
      endOfLoad libraries.errorTerminal (stderr ++
        logging.lines (Archive.load libraries.platform surroundings.lookUp (.ofText base)).events ++
        logging.lines (Archive.load libraries.platform surroundings.lookUp (.ofText target)).events)
        cause := by
  simp only [loadAndReport, loaded, failed]

theorem loadAndReport_of_both
    (isLeft : (Archive.load libraries.platform surroundings.lookUp (.ofText base)).result = .ok left)
    (isRight : (Archive.load libraries.platform surroundings.lookUp (.ofText target)).result =
      .ok right) :
    loadAndReport libraries surroundings logging choices stderr base target =
      report libraries surroundings.stdout logging choices (stderr ++
        logging.lines (Archive.load libraries.platform surroundings.lookUp (.ofText base)).events ++
        logging.lines (Archive.load libraries.platform surroundings.lookUp (.ofText target)).events)
        left right := by
  simp only [loadAndReport, isLeft, isRight]

end Loads

/-- How the two loads of a run can go; the target is not looked at behind a base that fails. -/
inductive LoadsGo (platform : Platform) (lookUp : Files.Path → Files.Found) (base target : String) :
    Prop where
  | baseFails {cause : Archive.LoadError}
    (failed : (Archive.load platform lookUp (.ofText base)).result = .error cause)
  | targetFails {left : Surface} {cause : Archive.LoadError}
    (loaded : (Archive.load platform lookUp (.ofText base)).result = .ok left)
    (failed : (Archive.load platform lookUp (.ofText target)).result = .error cause)
  | bothLoad {left right : Surface}
    (isLeft : (Archive.load platform lookUp (.ofText base)).result = .ok left)
    (isRight : (Archive.load platform lookUp (.ofText target)).result = .ok right)

theorem loadsGo (platform : Platform) (lookUp : Files.Path → Files.Found) (base target : String) :
    LoadsGo platform lookUp base target := by
  cases isBase : (Archive.load platform lookUp (.ofText base)).result with
  | error cause => exact .baseFails isBase
  | ok left =>
      cases isTarget : (Archive.load platform lookUp (.ofText target)).result with
      | error cause => exact .targetFails isBase isTarget
      | ok right => exact .bothLoad isBase isTarget

/-- Two ends that a caller cannot tell apart who looks at the exit code and the standard output. -/
structure Alike (first second : Finished) : Prop where
  result : second.result = first.result
  stdout : second.stdout = first.stdout

theorem alike_endOfLoad (terminal : Terminal) (stderr other : CodePoints) (cause : Archive.LoadError) :
    Alike (endOfLoad terminal stderr cause) (endOfLoad terminal other cause) := by
  unfold endOfLoad
  split
  · exact ⟨rfl, rfl⟩
  · exact ⟨rfl, rfl⟩

theorem alike_report (libraries : Libraries) (stdout : Stream) (logging other : Logging)
    (choices : Choices) (stderr otherStderr : CodePoints) (left right : Surface) :
    Alike (report libraries stdout logging choices stderr left right)
      (report libraries stdout other choices otherStderr left right) := by
  unfold report
  split
  · exact ⟨rfl, rfl⟩
  · unfold reportConsole
    dsimp only
    split
    · exact ⟨rfl, rfl⟩
    · exact ⟨rfl, rfl⟩

/-- The log does not matter to the exit code and the standard output. -/
theorem alike_loadAndReport (libraries : Libraries) {first second : Surroundings}
    (lookUp : second.lookUp = first.lookUp) (stdout : second.stdout = first.stdout)
    (logging other : Logging) (choices : Choices) (stderr otherStderr : CodePoints)
    (base target : String) :
    Alike (loadAndReport libraries first logging choices stderr base target)
      (loadAndReport libraries second other choices otherStderr base target) := by
  cases loadsGo libraries.platform first.lookUp base target with
  | baseFails failed =>
      rw [loadAndReport_of_base failed, loadAndReport_of_base (lookUp ▸ failed)]
      apply alike_endOfLoad
  | targetFails loaded failed =>
      rw [loadAndReport_of_target loaded failed,
        loadAndReport_of_target (lookUp ▸ loaded) (lookUp ▸ failed)]
      apply alike_endOfLoad
  | bothLoad isLeft isRight =>
      rw [loadAndReport_of_both isLeft isRight,
        loadAndReport_of_both (lookUp ▸ isLeft) (lookUp ▸ isRight), stdout]
      apply alike_report

/-- The standard output takes the report for the eye, if the two archives load. -/
def IsPrintableRun (libraries : Libraries) (surroundings : Surroundings) (options : Options)
    (settings : Settings) : Prop :=
  ∀ left right, (baseLoad libraries surroundings options).result = .ok left →
    (targetLoad libraries surroundings options).result = .ok right →
    IsPrintable libraries surroundings.stdout (settings.detectChanges && !options.noChanged) left right

/-- The form of the report does not matter to the exit code, if it can be printed. -/
theorem result_loadAndReport_json {libraries : Libraries} {surroundings : Surroundings}
    {options : Options} {settings : Settings}
    (printable : IsPrintableRun libraries surroundings options settings) (logging other : Logging)
    (json : Bool) (stderr otherStderr : CodePoints) :
    (loadAndReport libraries surroundings other { choicesOf options settings with json } otherStderr
        options.base options.target).result =
      (loadAndReport libraries surroundings logging (choicesOf options settings) stderr
        options.base options.target).result := by
  cases loadsGo libraries.platform surroundings.lookUp options.base options.target with
  | @baseFails cause failed =>
      rw [loadAndReport_of_base failed, loadAndReport_of_base failed]
      exact (alike_endOfLoad _ _ _ cause).result
  | @targetFails _ cause loaded failed =>
      rw [loadAndReport_of_target loaded failed, loadAndReport_of_target loaded failed]
      exact (alike_endOfLoad _ _ _ cause).result
  | @bothLoad left right isLeft isRight =>
      have isTaken : IsPrintable libraries surroundings.stdout (choicesOf options settings).detectChanges
          left right := printable _ _ isLeft isRight
      rw [loadAndReport_of_both isLeft isRight, loadAndReport_of_both isLeft isRight]
      exact result_report_json isTaken _ _ _

/-! ## The debug variable -/

/-- The name of the debug variable in small letters. -/
def debugVariable : String := "apidiff_debug"

/-- The environments differ in the debug variable only, however it is spelled, and no value in the
settings file refers to it. -/
structure DifferInDebug (references : List UInt8 → List String) (first second : Surroundings) :
    Prop where
  lookUp : second.lookUp = first.lookUp
  stdout : second.stdout = first.stdout
  settingsFile : second.settingsFile = first.settingsFile
  environment : Settings.AgreeOn (fun name => name ≠ debugVariable) first.environment second.environment
  unreferenced : ∀ bytes ∈ first.settingsFile, ∀ name ∈ references bytes,
    Text.lowerCase name ≠ debugVariable

/-- Where the environments differ in the debug variable only, the settings differ in the debug setting
only. -/
theorem DifferInDebug.settings {references : List UInt8 → List String} {first second : Surroundings}
    (differ : DifferInDebug references first second) {libraries : Libraries}
    (own : libraries.loadSettings.TakesOwnVariables references) {arguments others : List String}
    {options otherOptions : Options} {settings other : Settings}
    (isFirst : Starts libraries first arguments options settings)
    (isSecond : Starts libraries second others otherOptions other) :
    other = { settings with debug := other.debug } := by
  have loaded := isSecond.loaded
  rw [differ.settingsFile] at loaded
  have same {α : Type} {name : String} {field : Settings → α} (isField : Settings.IsField name field)
      (isOther : Text.lowerCase (Settings.variableStart ++ name) ≠ debugVariable) :
      field other = field settings := by
    refine own.field isField (fun name => name ≠ debugVariable) (decide_eq_true isOther)
      first.settingsFile ?_ _ _ _ _ differ.environment isFirst.loaded loaded
    exact fun bytes isFile name isReference =>
      decide_eq_true (differ.unreferenced bytes isFile name isReference)
  have detectChanges := same .detectChanges (by decide +kernel)
  have failOnDiff := same .failOnDiff (by decide +kernel)
  have logFormat := same .logFormat (by decide +kernel)
  cases other
  cases detectChanges
  cases failOnDiff
  cases logFormat
  rfl

/-! ## The law of the command -/

/-- What a run that starts does, in terms of its two loads and of the comparison. -/
structure RunLaw (libraries : Libraries) (surroundings : Surroundings) (arguments : List String)
    (options : Options) (settings : Settings) : Prop where
  /-- The code 3 stands for a load that ends with a fault of its archive. -/
  archiveFault : (run libraries surroundings arguments).result = .ok 3 ↔
    (∃ cause, (baseLoad libraries surroundings options).result = .error cause ∧
        cause.IsArchiveFault) ∨
      ∃ left cause, (baseLoad libraries surroundings options).result = .ok left ∧
        (targetLoad libraries surroundings options).result = .error cause ∧ cause.IsArchiveFault
  /-- Of two surfaces, the entries decide, if they are asked for and can be reported. -/
  compared : ∀ left right, (baseLoad libraries surroundings options).result = .ok left →
    (targetLoad libraries surroundings options).result = .ok right →
    (options.json = true ∨ IsPrintable libraries surroundings.stdout
      (settings.detectChanges && !options.noChanged) left right) →
    (run libraries surroundings arguments).result =
      .ok (if (options.failOnDiff = true ∨ settings.failOnDiff = true) ∧
          emitted (settings.detectChanges && !options.noChanged) left right ≠ [] then 1 else 0)
  /-- Where a line of the report is refused, the run fails. -/
  refused : ∀ left right, (baseLoad libraries surroundings options).result = .ok left →
    (targetLoad libraries surroundings options).result = .ok right → options.json = false →
    ¬IsPrintable libraries surroundings.stdout (settings.detectChanges && !options.noChanged)
      left right →
    ∃ reason, (run libraries surroundings arguments).result = .error (.print reason)
  /-- There is no output before both archives are loaded. -/
  silent : (run libraries surroundings arguments).stdout ≠ [] →
    ∃ left right, (baseLoad libraries surroundings options).result = .ok left ∧
      (targetLoad libraries surroundings options).result = .ok right
  /-- The base comes first, and what is logged of the target comes behind it. -/
  ordered : ∀ left, (baseLoad libraries surroundings options).result = .ok left →
    let logging := loggingOf surroundings options settings
    warningsOf libraries surroundings ++
        logging.lines (baseLoad libraries surroundings options).events ++
        logging.lines (targetLoad libraries surroundings options).events <+:
      (run libraries surroundings arguments).stderr
  /-- Behind a base that fails, nothing depends on the target. -/
  baseFirst : ∀ cause, (baseLoad libraries surroundings options).result = .error cause →
    ∀ lookUp : Files.Path → Files.Found,
      lookUp (.ofText options.base) = surroundings.lookUp (.ofText options.base) →
      run libraries { surroundings with lookUp } arguments = run libraries surroundings arguments
  json : IsPrintableRun libraries surroundings options settings →
    ∀ others json, libraries.parse others = .diff { options with json } →
    (run libraries surroundings others).result = (run libraries surroundings arguments).result
  verbose : ∀ others verbose, libraries.parse others = .diff { options with verbose } →
    Alike (run libraries surroundings arguments) (run libraries surroundings others)
  debug : ∀ other debug, Starts libraries other arguments options { settings with debug } →
    other.lookUp = surroundings.lookUp → other.stdout = surroundings.stdout →
    Alike (run libraries surroundings arguments) (run libraries other arguments)
  debugVariable : ∀ references, libraries.loadSettings.TakesOwnVariables references →
    ∀ other otherSettings, DifferInDebug references surroundings other →
    Starts libraries other arguments options otherSettings →
    Alike (run libraries surroundings arguments) (run libraries other arguments)

section Law

variable {libraries : Libraries} {surroundings : Surroundings} {arguments : List String}
  {options : Options} {settings : Settings}

theorem Starts.archiveFault_iff
    (starts : Starts libraries surroundings arguments options settings) :
    (run libraries surroundings arguments).result = .ok archiveFaultCode ↔
      (∃ cause, (baseLoad libraries surroundings options).result = .error cause ∧
          cause.IsArchiveFault) ∨
        ∃ left cause, (baseLoad libraries surroundings options).result = .ok left ∧
          (targetLoad libraries surroundings options).result = .error cause ∧
          cause.IsArchiveFault := by
  rw [starts.run_eq]
  cases loadsGo libraries.platform surroundings.lookUp options.base options.target with
  | baseFails failed =>
      rw [loadAndReport_of_base failed, result_endOfLoad]
      simp [baseLoad, failed]
  | targetFails loaded failed =>
      rw [loadAndReport_of_target loaded failed, result_endOfLoad]
      simp [baseLoad, targetLoad, loaded, failed]
  | bothLoad isLeft isRight =>
      rw [loadAndReport_of_both isLeft isRight]
      simp [baseLoad, targetLoad, isLeft, isRight, result_report_ne]

theorem Starts.result_of_both (starts : Starts libraries surroundings arguments options settings)
    {left right : Surface} (isLeft : (baseLoad libraries surroundings options).result = .ok left)
    (isRight : (targetLoad libraries surroundings options).result = .ok right)
    (isTaken : options.json = true ∨ IsPrintable libraries surroundings.stdout
      (settings.detectChanges && !options.noChanged) left right) :
    (run libraries surroundings arguments).result =
      .ok (if (options.failOnDiff = true ∨ settings.failOnDiff = true) ∧
          emitted (settings.detectChanges && !options.noChanged) left right ≠ []
        then differencesCode else successCode) := by
  rw [starts.run_eq, loadAndReport_of_both isLeft isRight, result_report isTaken]
  simp only [choicesOf, Bool.or_eq_true]

/-- A load that fails leaves the standard output empty. -/
theorem Starts.both_of_stdout (starts : Starts libraries surroundings arguments options settings)
    (written : (run libraries surroundings arguments).stdout ≠ []) :
    ∃ left right, (baseLoad libraries surroundings options).result = .ok left ∧
      (targetLoad libraries surroundings options).result = .ok right := by
  rw [starts.run_eq] at written
  cases loadsGo libraries.platform surroundings.lookUp options.base options.target with
  | baseFails failed =>
      rw [loadAndReport_of_base failed, stdout_endOfLoad] at written
      exact absurd rfl written
  | targetFails loaded failed =>
      rw [loadAndReport_of_target loaded failed, stdout_endOfLoad] at written
      exact absurd rfl written
  | bothLoad isLeft isRight => exact ⟨_, _, isLeft, isRight⟩

theorem stderr_endOfLoad (terminal : Terminal) (stderr : CodePoints) (cause : Archive.LoadError) :
    stderr <+: (endOfLoad terminal stderr cause).stderr := by
  unfold endOfLoad
  split
  · exact List.prefix_append _ _
  · exact List.prefix_rfl

theorem stderr_report (libraries : Libraries) (stdout : Stream) (logging : Logging)
    (choices : Choices) (stderr : CodePoints) (left right : Surface) :
    stderr <+: (report libraries stdout logging choices stderr left right).stderr := by
  unfold report
  split
  · unfold reportJson
    dsimp only
    rw [List.append_assoc]
    exact List.prefix_append _ _
  · unfold reportConsole
    dsimp only
    split
    · exact List.prefix_append _ _
    · rw [List.append_assoc, List.append_assoc]
      exact List.prefix_append _ _

theorem Starts.logs_in_order (starts : Starts libraries surroundings arguments options settings)
    {left : Surface} (isLeft : (baseLoad libraries surroundings options).result = .ok left) :
    let logging := loggingOf surroundings options settings
    warningsOf libraries surroundings ++
        logging.lines (baseLoad libraries surroundings options).events ++
        logging.lines (targetLoad libraries surroundings options).events <+:
      (run libraries surroundings arguments).stderr := by
  rw [starts.run_eq]
  cases isRight : (targetLoad libraries surroundings options).result with
  | error cause =>
      rw [loadAndReport_of_target isLeft isRight]
      exact stderr_endOfLoad _ _ cause
  | ok right =>
      rw [loadAndReport_of_both isLeft isRight]
      exact stderr_report _ _ _ _ _ left right

/-- What lies elsewhere than at the base is of no concern to a run whose base fails. -/
theorem Starts.run_of_base (starts : Starts libraries surroundings arguments options settings)
    {cause : Archive.LoadError}
    (failed : (baseLoad libraries surroundings options).result = .error cause)
    {lookUp : Files.Path → Files.Found}
    (atBase : lookUp (.ofText options.base) = surroundings.lookUp (.ofText options.base)) :
    run libraries { surroundings with lookUp } arguments =
      run libraries surroundings arguments := by
  have otherStarts : Starts libraries { surroundings with lookUp } arguments options settings :=
    ⟨starts.asked, starts.loaded, starts.format⟩
  have sameLoad : Archive.load libraries.platform lookUp (.ofText options.base) =
      baseLoad libraries surroundings options := by
    unfold baseLoad Archive.load
    rw [atBase]
  have alsoFailed : (Archive.load libraries.platform lookUp (.ofText options.base)).result =
      .error cause := by
    rw [sameLoad, failed]
  rw [starts.run_eq, otherStarts.run_eq, loadAndReport_of_base failed,
    loadAndReport_of_base alsoFailed]
  simp only [sameLoad]
  rfl

theorem Starts.alike {other : Surroundings} {others : List String} {otherOptions : Options}
    {otherSettings : Settings} (starts : Starts libraries surroundings arguments options settings)
    (otherStarts : Starts libraries other others otherOptions otherSettings)
    (lookUp : other.lookUp = surroundings.lookUp) (stdout : other.stdout = surroundings.stdout)
    (base : otherOptions.base = options.base) (target : otherOptions.target = options.target)
    (choices : choicesOf otherOptions otherSettings = choicesOf options settings) :
    Alike (run libraries surroundings arguments) (run libraries other others) := by
  rw [starts.run_eq, otherStarts.run_eq, choices, base, target]
  exact alike_loadAndReport libraries lookUp stdout _ _ _ _ _ _ _

/-- **The exit code and the output of a run.** They are decided by the two loads, the entries, the
options and what can be printed, and by nothing else. -/
theorem run_law (starts : Starts libraries surroundings arguments options settings) :
    RunLaw libraries surroundings arguments options settings where
  archiveFault := starts.archiveFault_iff
  compared := fun _ _ isLeft isRight isTaken => starts.result_of_both isLeft isRight isTaken
  refused := by
    intro left right isLeft isRight isConsole refused
    rw [starts.run_eq, loadAndReport_of_both isLeft isRight]
    exact exists_result_of_refused isConsole refused
  silent := starts.both_of_stdout
  ordered := fun _ isLeft => starts.logs_in_order isLeft
  baseFirst := fun _ failed _ atBase => starts.run_of_base failed atBase
  json := by
    intro printable others json asked
    have otherStarts : Starts libraries surroundings others { options with json } settings :=
      ⟨asked, starts.loaded, starts.format⟩
    rw [starts.run_eq, otherStarts.run_eq]
    exact result_loadAndReport_json printable _ _ json _ _
  verbose := by
    intro others verbose asked
    have otherStarts : Starts libraries surroundings others { options with verbose } settings :=
      ⟨asked, starts.loaded, starts.format⟩
    exact starts.alike otherStarts rfl rfl rfl rfl rfl
  debug := fun _ _ otherStarts lookUp stdout => starts.alike otherStarts lookUp stdout rfl rfl rfl
  debugVariable := by
    intro references own other otherSettings differ otherStarts
    have sameButDebug := differ.settings own starts otherStarts
    rw [sameButDebug] at otherStarts
    exact starts.alike otherStarts differ.lookUp differ.stdout rfl rfl rfl

end Law

/-! ## A removed class -/

/-- A surface from this directory, with these methods in its only class. -/
def surfaceOfMethods (directory : String) (methods : List Method) : Surface :=
  ⟨.ofString directory,
    [⟨[], [{ name := "A", accessFlags := 0x21, methods, name_ne_empty := by decide }]⟩]⟩

/-- A directory with the class `A`, which has no methods. -/
def bareDirectory : Files.Found :=
  .directory { members := [⟨["A.class"], .ok ⟨#[0xCA, 0xFE, 0xBA, 0xBE, 0, 0, 0, 52, 0, 3, 1, 0, 1,
    0x41, 7, 0, 1, 0, 0x21, 0, 2, 0, 0, 0, 0, 0, 0, 0, 0]⟩⟩] }

/-- The class `A` in the directory `old`; all other directories are empty. -/
def removalLookUp (path : Files.Path) : Files.Found :=
  if path.components = ["old"] then bareDirectory else .directory {}

def removal (debug settingsFile : String) : Surroundings where
  environment := [("APIDIFF_DEBUG", debug)]
  settingsFile := some settingsFile.toUTF8.data.toList
  lookUp := removalLookUp
  stdout := .utf8

def removalArguments : List String := ["--json", "old", "new"]

def removalOptions : Options where
  base := "old"
  target := "new"
  json := true

theorem ofText_old : Files.Path.ofText "old" = ⟨"", ["old"]⟩ := by cbv

theorem ofText_new : Files.Path.ofText "new" = ⟨"", ["new"]⟩ := by cbv

theorem parse_removal :
    Arguments.parse removalArguments = .diff removalOptions ∧
      Arguments.parse ["old", "new"] = .diff { removalOptions with json := false } ∧
      Arguments.parse ("-v" :: removalArguments) = .diff { removalOptions with verbose := true } :=
  ⟨by cbv, by cbv, by cbv⟩

theorem exists_format : ∃ format, LogFormat.check ({} : Settings).logFormat = .ok format :=
  ⟨({} : Settings).logFormat, by cbv⟩

theorem loads_removal (debug settingsFile : String) :
    (baseLoad .plain (removal debug settingsFile) removalOptions).result =
        .ok (surfaceOfMethods "old" []) ∧
      (targetLoad .plain (removal debug settingsFile) removalOptions).result =
        .ok ⟨.ofString "new", []⟩ := by
  change (Archive.load {} removalLookUp (.ofText "old")).result = _ ∧
    (Archive.load {} removalLookUp (.ofText "new")).result = _
  rw [ofText_old, ofText_new]
  exact ⟨by cbv, by cbv⟩

theorem emitted_removal :
    emitted true (surfaceOfMethods "old" []) ⟨.ofString "new", []⟩ =
      [⟨.ofString "packages", .removed, [[]]⟩] := by
  cbv

theorem emitted_removal_ne :
    emitted true (surfaceOfMethods "old" []) ⟨.ofString "new", []⟩ ≠ [] := by
  rw [emitted_removal]
  exact List.cons_ne_nil _ _

/-- What is printed of the removed class has a form in UTF-8. -/
theorem isPrintable_removal (detectChanges : Bool) :
    IsPrintable .plain .utf8 detectChanges (surfaceOfMethods "old" []) ⟨.ofString "new", []⟩ := by
  unfold IsPrintable
  revert detectChanges
  decide_cbv

theorem isPrintableRun_removal (debug settingsFile : String) (settings : Settings) :
    IsPrintableRun .plain (removal debug settingsFile) removalOptions settings := by
  intro left right isLeft isRight
  obtain ⟨isBase, isTarget⟩ := loads_removal debug settingsFile
  obtain rfl := Except.ok.inj (isBase.symm.trans isLeft)
  obtain rfl := Except.ok.inj (isTarget.symm.trans isRight)
  exact isPrintable_removal _

theorem starts_removal {debug settingsFile : String} {settings : Settings}
    (loaded : (Settings.loader [("APIDIFF_DEBUG", debug)]
      (some settingsFile.toUTF8.data.toList)).result = .ok settings)
    (format : settings.logFormat = ({} : Settings).logFormat) :
    Starts .plain (removal debug settingsFile) removalArguments removalOptions settings where
  asked := parse_removal.1
  loaded := loaded
  format := format ▸ exists_format

/-- A settings file that says by itself that differences fail. -/
def plainFile : String := "APIDIFF_FAIL_ON_DIFF=yes"

theorem starts_plain :
    Starts .plain (removal "0" plainFile) removalArguments removalOptions { failOnDiff := true } ∧
      Starts .plain (removal "1" plainFile) removalArguments removalOptions
        { failOnDiff := true, debug := true } :=
  ⟨starts_removal (by decide +kernel) rfl, starts_removal (by decide +kernel) rfl⟩

theorem differ_plain :
    DifferInDebug Settings.referencesOf (removal "0" plainFile) (removal "1" plainFile) where
  lookUp := rfl
  stdout := rfl
  settingsFile := rfl
  environment := by
    unfold Settings.AgreeOn
    decide +kernel
  unreferenced := by
    intro bytes isFile
    obtain rfl := Option.some.inj isFile
    decide +kernel

/-- The removed class makes the run fail, whether or not it is debugged, and in either form of the
report. -/
theorem run_law_removal :
    RunLaw .plain (removal "0" plainFile) removalArguments removalOptions { failOnDiff := true } ∧
      (run .plain (removal "0" plainFile) removalArguments).result = .ok 1 ∧
      (run .plain (removal "0" plainFile) ["old", "new"]).result = .ok 1 ∧
      Alike (run .plain (removal "0" plainFile) removalArguments)
        (run .plain (removal "1" plainFile) removalArguments) ∧
      Alike (run .plain (removal "0" plainFile) removalArguments)
        (run .plain (removal "0" plainFile) ("-v" :: removalArguments)) := by
  obtain ⟨off, on⟩ := starts_plain
  obtain ⟨_, console, verbose⟩ := parse_removal
  obtain ⟨isBase, isTarget⟩ := loads_removal "0" plainFile
  have law := run_law off
  have failing := law.compared _ _ isBase isTarget (.inl rfl)
  rw [if_pos ⟨.inr rfl, emitted_removal_ne⟩] at failing
  refine ⟨law, failing, ?_, ?_, law.verbose _ true verbose⟩
  · rw [law.json (isPrintableRun_removal _ _ _) ["old", "new"] false console, failing]
  · exact law.debugVariable _ Settings.loader_takesOwnVariables _ _ differ_plain on

/-! ## A reference and a surrogate -/

/-- A settings file in which differences fail when the debug variable says so. -/
def referringFile : String := "APIDIFF_FAIL_ON_DIFF=${APIDIFF_DEBUG}"

def surrogateMethod : Method where
  name := [⟨0xD801, by decide⟩]
  descriptor := .ofString "()V"
  accessFlags := 1

/-- The class `A` with this method in the directory `old`, and without it in all others. -/
def surrogateLookUp (path : Files.Path) : Files.Found :=
  if path.components = ["old"] then
    .directory { members := [⟨["A.class"], .ok ⟨#[0xCA, 0xFE, 0xBA, 0xBE, 0, 0, 0, 52, 0, 5, 1, 0, 1,
      0x41, 7, 0, 1, 1, 0, 3, 0xED, 0xA0, 0x81, 1, 0, 3, 0x28, 0x29, 0x56, 0, 0x21, 0, 2, 0, 0, 0, 0,
      0, 0, 0, 1, 0, 1, 0, 3, 0, 4, 0, 0]⟩⟩] }
  else
    bareDirectory

def surrogateSurroundings : Surroundings :=
  { removal "0" referringFile with lookUp := surrogateLookUp }

theorem starts_referring :
    Starts .plain (removal "0" referringFile) removalArguments removalOptions {} ∧
      Starts .plain (removal "1" referringFile) removalArguments removalOptions
        { failOnDiff := true, debug := true } :=
  ⟨starts_removal (by decide +kernel) rfl, starts_removal (by decide +kernel) rfl⟩

theorem run_of_reference :
    (run .plain (removal "0" referringFile) removalArguments).result = .ok 0 ∧
      (run .plain (removal "1" referringFile) removalArguments).result = .ok 1 := by
  obtain ⟨off, on⟩ := starts_referring
  constructor
  · obtain ⟨isBase, isTarget⟩ := loads_removal "0" referringFile
    rw [off.result_of_both isBase isTarget (.inl rfl)]
    rfl
  · obtain ⟨isBase, isTarget⟩ := loads_removal "1" referringFile
    rw [on.result_of_both isBase isTarget (.inl rfl), if_pos ⟨.inr rfl, emitted_removal_ne⟩]
    rfl

theorem loads_surrogate (json : Bool) :
    (baseLoad .plain surrogateSurroundings { removalOptions with json }).result =
        .ok (surfaceOfMethods "old" [surrogateMethod]) ∧
      (targetLoad .plain surrogateSurroundings { removalOptions with json }).result =
        .ok (surfaceOfMethods "new" []) := by
  change (Archive.load {} surrogateLookUp (.ofText "old")).result = _ ∧
    (Archive.load {} surrogateLookUp (.ofText "new")).result = _
  rw [ofText_old, ofText_new]
  exact ⟨by cbv, by cbv⟩

theorem starts_surrogate {arguments : List String} {json : Bool}
    (asked : Arguments.parse arguments = .diff { removalOptions with json }) :
    Starts .plain surrogateSurroundings arguments { removalOptions with json } {} where
  asked := asked
  loaded := starts_referring.1.loaded
  format := exists_format

theorem not_isPrintable_surrogate :
    ¬IsPrintable .plain .utf8 true (surfaceOfMethods "old" [surrogateMethod])
      (surfaceOfMethods "new" []) := by
  decide +kernel

/-- The run in JSON ends in good order, and the one for the eye ends at the item. -/
theorem run_of_surrogate :
    (run .plain surrogateSurroundings removalArguments).result = .ok 0 ∧
      ∃ reason, (run .plain surrogateSurroundings ["old", "new"]).result = .error (.print reason) := by
  obtain ⟨isJson, isConsole, _⟩ := parse_removal
  constructor
  · have starts : Starts .plain surrogateSurroundings removalArguments removalOptions {} :=
      starts_surrogate isJson
    obtain ⟨isBase, isTarget⟩ := loads_surrogate true
    rw [starts.result_of_both isBase isTarget (.inl rfl)]
    rfl
  · obtain ⟨isBase, isTarget⟩ := loads_surrogate false
    rw [(starts_surrogate isConsole).run_eq, loadAndReport_of_both isBase isTarget]
    exact exists_result_of_refused rfl not_isPrintable_surrogate

/-- Where the settings file refers to it, the debug variable gets into another setting, and from there
into the exit code. And a name in which a surrogate stands alone ends a run that prints in UTF-8, but not
one that reports in JSON. -/
theorem exitCode_of_reference_and_surrogate :
    ((run .plain (removal "0" referringFile) removalArguments).result = .ok 0 ∧
        (run .plain (removal "1" referringFile) removalArguments).result = .ok 1) ∧
      (run .plain surrogateSurroundings removalArguments).result = .ok 0 ∧
        ∃ reason, (run .plain surrogateSurroundings ["old", "new"]).result = .error (.print reason) :=
  ⟨run_of_reference, run_of_surrogate⟩

end SurfaceDiff.Command
