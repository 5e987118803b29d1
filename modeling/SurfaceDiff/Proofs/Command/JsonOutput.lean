import SurfaceDiff.Proofs.Command.ExitCode
import SurfaceDiff.Proofs.JoinedNames

/-!
Contract: the reports that a comparison writes, next to what it finds, and the standard output of a
run that reports in JSON.

Owns: the agreement of both kinds of report with the collected entries, and that a reader of the
standard output gets all of these back.
Does not own: when a run gets as far as a comparison, and how a terminal renders what is printed.

Names from class files have their pairs joined, so the output of a run is read back exactly.
Surfaces in general may hold unjoined pairs, and a reader of JSON takes these for single characters.
A report for the eye is followed print by print, for any terminal and any stream.
-/

namespace SurfaceDiff.Command

open Text Report.Json

/-- The counters that go with `emitted`. -/
def counted (detectChanges : Bool) (left right : Surface) : Summary :=
  (Comparison.collect detectChanges left right).summary

/-- What is written of a comparison agrees with the entries that are collected, and in JSON it says
what these are, up to pairs of surrogates in names. No stream refuses any part of the report in JSON. -/
structure WritesFaithfully (detectChanges : Bool) (left right : Surface) : Prop where
  json : Comparison.Streams sink (fun entry => .ofString (entryLine entry)) detectChanges left right
  console : ∀ (terminal : Terminal) (stream : Stream),
    Comparison.Prints terminal stream detectChanges left right
  taken : ∀ (stream : Stream) (part : CodePoints),
    part <:+: written (emitted detectChanges left right) (counted detectChanges left right) →
    stream.refusal? part = none
  readJoined : ReadsAs
    (written (emitted detectChanges left right) (counted detectChanges left right))
    ((emitted detectChanges left right).map Entry.joined) (counted detectChanges left right)
  readBack : left.HasJoinedNames → right.HasJoinedNames → ReadsAs
    (written (emitted detectChanges left right) (counted detectChanges left right))
    (emitted detectChanges left right) (counted detectChanges left right)

/-- The report in JSON is in ASCII. -/
theorem refusal?_of_written (stream : Stream) {entries : List Entry} {summary : Summary}
    {part : CodePoints} (isPart : part <:+: written entries summary) :
    stream.refusal? part = none := by
  apply stream.takes_ascii
  intro point inPart
  have isPoint := isPart.subset inPart
  rw [written_eq_lines] at isPoint
  obtain ⟨line, isLine, isPoint⟩ := List.mem_flatMap.mp isPoint
  rcases List.mem_append.mp isPoint with inLine | isBreak
  · have isPlain := plain_of_mem_lineTexts isLine point inLine
    omega
  · rw [List.mem_singleton.mp isBreak]
    decide

theorem writesFaithfully (detectChanges : Bool) (left right : Surface) :
    WritesFaithfully detectChanges left right := by
  have entries := Comparison.entries_collect detectChanges left right
  have tallies : (counted detectChanges left right).Tallies (emitted detectChanges left right) := by
    have found := Comparison.tallies_compare ⟨Collected.sink, detectChanges⟩ {} left right
    rw [← entries] at found
    exact found
  have readJoined := readsAs_written tallies
  refine ⟨Comparison.streams_json _ left right, fun terminal stream => Comparison.prints terminal
    stream _ left right, fun stream part => refusal?_of_written stream, readJoined,
    fun leftJoined rightJoined => ?_⟩
  have same : (emitted detectChanges left right).map Entry.joined =
      emitted detectChanges left right := Comparison.joined_collect leftJoined rightJoined
  rw [same] at readJoined
  exact readJoined

/-- In JSON, the standard output is the lines of the entries and the line of the counters. -/
theorem stdout_report (libraries : Libraries) (stdout : Stream) {choices : Choices}
    (isJson : choices.json = true) (logging : Logging) (stderr : CodePoints) (left right : Surface) :
    (report libraries stdout logging choices stderr left right).stdout =
      written (emitted choices.detectChanges left right)
        (counted choices.detectChanges left right) := by
  have streams := Comparison.streams_json choices.detectChanges left right
  simp only [report, isJson, if_true, reportJson]
  rw [streams.text, streams.summary]
  rfl

/-- **Reports are faithful.** Of any two surfaces, what is written agrees with what is collected. And
if a run that reports in JSON loads two surfaces, then its standard output consists of a line for
each entry, in which this entry can be read, and a line with their counters. -/
theorem reports_faithful :
    (∀ detectChanges left right, WritesFaithfully detectChanges left right) ∧
      ∀ (libraries : Libraries) (surroundings : Surroundings) (arguments : List String)
        (options : Options) (settings : Settings) (left right : Surface),
        Starts libraries surroundings arguments options settings → options.json = true →
        (baseLoad libraries surroundings options).result = .ok left →
        (targetLoad libraries surroundings options).result = .ok right →
        ReadsAs (run libraries surroundings arguments).stdout
          (emitted (settings.detectChanges && !options.noChanged) left right)
          (counted (settings.detectChanges && !options.noChanged) left right) := by
  refine ⟨writesFaithfully, ?_⟩
  intro libraries surroundings arguments options settings left right starts isJson isLeft isRight
  have choices : (choicesOf options settings).json = true := isJson
  rw [starts.run_eq, loadAndReport_of_both isLeft isRight, stdout_report _ _ choices]
  exact (writesFaithfully _ left right).readBack (Archive.hasJoinedNames_of_load isLeft)
    (Archive.hasJoinedNames_of_load isRight)

/-- A surface with the class `Quote` and these methods. -/
def quoteSurface (methods : List Method) : Surface :=
  ⟨.ofString "quote", [⟨[], [{ name := "Quote", methods, name_ne_empty := by decide }]⟩]⟩

/-- A method whose name has a quote, a line break and a supplementary character in it. -/
def quoteMethod : Method where
  name := .ofString "\"é\n😀"
  descriptor := .ofString "()V"

theorem quoteSurface_hasJoinedNames {methods : List Method}
    (joined : ∀ method ∈ methods, method.HasJoinedNames) :
    (quoteSurface methods).HasJoinedNames := by
  intro package isPackage
  rw [List.mem_singleton.mp isPackage]
  refine ⟨List.IsChain.nil, fun decl isType method isMethod => ?_⟩
  rw [List.mem_singleton.mp isType] at isMethod
  exact joined method isMethod

/-- The removal of the only class of an archive is read back from the output, and the removal of a
method from the report, whatever the name of the method. On a plain terminal the latter is printed as two
lines and a blank one. -/
theorem reports_faithful_removal :
    ReadsAs (run .plain (removal "0" plainFile) removalArguments).stdout
        [⟨.ofString "packages", .removed, [[]]⟩] { entries := 1, removed := 1 } ∧
      ReadsAs
        (written (emitted true (quoteSurface [quoteMethod]) (quoteSurface []))
          (counted true (quoteSurface [quoteMethod]) (quoteSurface [])))
        [⟨.ofString "methods in class Quote", .removed, [.ofString "\"é\n😀 :: ()V"]⟩]
        { packagesCompared := 1, typesCompared := 1, entries := 1, removed := 1 } ∧
      (Surface.compare ⟨Report.Console.sink .plain .utf8, true⟩ {} (quoteSurface [quoteMethod])
          (quoteSurface [])).state.written.toList =
        CodePoints.ofString "Removed methods in class Quote:\n        \"é\n😀 :: ()V\n\n" := by
  refine ⟨?_, ?_, ?_⟩
  · have tallied : counted true (surfaceOfMethods "old" []) ⟨.ofString "new", []⟩ =
        { entries := 1, removed := 1 } := by
      decide +kernel
    obtain ⟨isBase, isTarget⟩ := loads_removal "0" plainFile
    rw [← emitted_removal, ← tallied]
    exact reports_faithful.2 _ _ _ _ _ _ _ starts_plain.1 rfl isBase isTarget
  · have joined : ∀ method ∈ [quoteMethod], method.HasJoinedNames := by
      intro method isMethod
      rw [List.mem_singleton.mp isMethod]
      exact ⟨unpaired_ofString _, unpaired_ofString _⟩
    have others : ∀ method ∈ ([] : List Method), method.HasJoinedNames := nofun
    have found : emitted true (quoteSurface [quoteMethod]) (quoteSurface []) =
        [⟨.ofString "methods in class Quote", .removed, [.ofString "\"é\n😀 :: ()V"]⟩] := by
      decide +kernel
    have tallied : counted true (quoteSurface [quoteMethod]) (quoteSurface []) =
        { packagesCompared := 1, typesCompared := 1, entries := 1, removed := 1 } := by
      decide +kernel
    have readBack := (reports_faithful.1 true _ _).readBack (quoteSurface_hasJoinedNames joined)
      (quoteSurface_hasJoinedNames others)
    rw [found, tallied] at readBack
    rw [found, tallied]
    exact readBack
  · have printed := ((reports_faithful.1 true (quoteSurface [quoteMethod])
      (quoteSurface [])).console .plain .utf8).whole {} rfl (by decide +kernel)
    rw [printed]
    decide +kernel

end SurfaceDiff.Command
