import Mathlib.Data.List.Basic
import SurfaceDiff.Proofs.Settings.Assignments
import SurfaceDiff.Settings.Load

/-!
Contract: what the environment has to do with the settings.

Owns: the names that a settings file looks up outside of itself, sources that agree on some variables,
and that a field has the same value in both if its own variable is among them, and those that the file
refers to.
Does not own: the command and its streams.

A variable decides about its own field. It can get into another field in one way: through a reference
in the settings file. So references are looked at first.
-/

namespace SurfaceDiff.Settings

/-! ## References -/

namespace Reference

/-- The names in the references of a text; `limit` bounds the number of steps. -/
def namesFrom : Nat → List Char → List String
  | 0, _ => []
  | _, [] => []
  | limit + 1, character :: rest =>
    match read? (character :: rest) with
    | some (reference, behind) => reference.name :: namesFrom limit behind
    | none => namesFrom limit rest

def names (text : String) : List String :=
  namesFrom text.length text.toList

/-- The names that are looked up outside of the file: those that no binding above has. -/
def outsideNames : List String → List Dotenv.Binding → List String
  | _, [] => []
  | above, binding :: rest =>
    ((binding.value.map names).getD []).filter (· ∉ above) ++
      outsideNames (binding.name :: above) rest

theorem expandFrom_congr {first second : String → Option String} (limit : Nat) (text : List Char)
    (agree : ∀ name ∈ namesFrom limit text, first name = second name) :
    expandFrom first limit text = expandFrom second limit text := by
  induction limit generalizing text with
  | zero => rfl
  | succ limit inductionHypothesis =>
      cases text with
      | nil => rfl
      | cons character rest =>
          cases isReference : read? (character :: rest) with
          | some pair =>
              simp only [namesFrom, isReference] at agree
              obtain ⟨head, tail⟩ := List.forall_mem_cons.mp agree
              simp only [expandFrom, isReference, head, inductionHypothesis pair.2 tail]
          | none =>
              simp only [namesFrom, isReference] at agree
              simp only [expandFrom, isReference, inductionHypothesis rest agree]

/-- What a text stands for depends on the names in its references. -/
theorem expand_congr {first second : String → Option String} {text : String}
    (agree : ∀ name ∈ names text, first name = second name) :
    expand first text = expand second text :=
  congrArg String.ofList (expandFrom_congr text.length text.toList agree)

/-- What a name stands for depends on the environment only if no binding above has it. -/
theorem meaning?_congr {first second : Assignments String} {above : Assignments (Option String)}
    {name : String}
    (agree : above.find? name = none → first.find? name = second.find? name) :
    meaning? first above name = meaning? second above name := by
  unfold meaning?
  split
  case h_1 => rfl
  case h_2 absent => exact agree absent

/-- The text of a binding depends on what the environment says of the names in it, except for those
that are assigned above. -/
theorem text_congr {first second : Assignments String} {above : Assignments (Option String)}
    {known : List String} (assigned : ∀ name ∈ known, above.find? name ≠ none)
    {binding : Dotenv.Binding}
    (agree : ∀ name ∈ ((binding.value.map names).getD []).filter (· ∉ known),
      first.find? name = second.find? name) :
    binding.value.map (expand (meaning? first above)) =
      binding.value.map (expand (meaning? second above)) := by
  cases isValue : binding.value with
  | none => rfl
  | some value =>
      rw [isValue] at agree
      apply congrArg some
      apply expand_congr
      intro name isName
      apply meaning?_congr
      intro absent
      have unknown : name ∉ known := fun isKnown => assigned name isKnown absent
      exact agree name (List.mem_filter.mpr ⟨isName, by simpa using unknown⟩)

/-- Along the bindings, the names above are those that have been assigned so far. -/
theorem foldl_assign_congr {first second : Assignments String} (bindings : List Dotenv.Binding)
    {known : List String} {above : Assignments (Option String)}
    (assigned : ∀ name ∈ known, above.find? name ≠ none)
    (agree : ∀ name ∈ outsideNames known bindings, first.find? name = second.find? name) :
    bindings.foldl (fun above binding =>
        above.assign binding.name (binding.value.map (expand (meaning? first above)))) above =
      bindings.foldl (fun above binding =>
        above.assign binding.name (binding.value.map (expand (meaning? second above)))) above := by
  induction bindings generalizing known above with
  | nil => rfl
  | cons binding rest inductionHypothesis =>
      unfold outsideNames at agree
      obtain ⟨here, behind⟩ := List.forall_mem_append.mp agree
      rw [List.foldl_cons, List.foldl_cons, text_congr assigned here]
      refine inductionHypothesis ?_ behind
      intro name isKnown
      rw [Assignments.find?_assign]
      by_cases same : name = binding.name
      · simp [same]
      · rw [if_neg same]
        exact assigned name ((List.mem_cons.mp isKnown).resolve_left same)

/-- The texts of a file depend on what the environment says of its outside names. -/
theorem resolve_congr {first second : Assignments String} (bindings : List Dotenv.Binding)
    (agree : ∀ name ∈ outsideNames [] bindings, first.find? name = second.find? name) :
    resolve first bindings = resolve second bindings :=
  foldl_assign_congr bindings (by simp) agree

end Reference

/-! ## Sources that agree on some variables -/

namespace Sources

/-- The names that the settings files look up in the environment. -/
def outsideNames (sources : Sources) : List String :=
  sources.files.flatMap fun file =>
    Reference.outsideNames [] ((Dotenv.parse file).filterMap Dotenv.Statement.binding?)

/-- The variables that are kept, by the form of their names in which they are looked up. -/
def environmentOf (kept : String → Bool) (sources : Sources) : List (String × String) :=
  sources.environment.filter fun pair => kept (sources.options.key pair.1)

/-- The sources agree on the variables that are kept, and the settings files refer to no others. -/
structure Agree (kept : String → Bool) (first second : Sources) : Prop where
  options : second.options = first.options
  overrides : second.overrides = first.overrides
  files : second.files = first.files
  environment : second.environmentOf kept = first.environmentOf kept
  referenced : ∀ name ∈ first.outsideNames, kept (first.options.key name) = true

variable {kept : String → Bool} {first second : Sources}

theorem environmentTexts_onNames (sources : Sources) (kept : String → Bool) :
    sources.environmentTexts.onNames kept =
      ((Assignments.ofList (sources.environmentOf kept)).filterValues sources.options.counts).renamed
        sources.options.key := by
  unfold environmentTexts environmentOf
  rw [Assignments.onNames_renamed, Assignments.onNames_filterValues, Assignments.onNames_ofList]

theorem Agree.environmentTexts (agree : Agree kept first second) {wanted : String}
    (isKept : kept wanted = true) :
    second.environmentTexts.find? wanted = first.environmentTexts.find? wanted := by
  rw [← Assignments.find?_onNames _ isKept, ← Assignments.find?_onNames first.environmentTexts isKept,
    environmentTexts_onNames, environmentTexts_onNames, agree.environment, agree.options]

theorem Agree.variables (agree : Agree kept first second) {name : String}
    (isKept : kept (first.options.key name) = true) :
    (Assignments.ofList second.environment).find? name =
      (Assignments.ofList first.environment).find? name := by
  let keptAs : String → Bool := fun name => kept (first.options.key name)
  have isKeptAs : keptAs name = true := isKept
  have environment := agree.environment
  unfold environmentOf at environment
  rw [agree.options] at environment
  rw [← Assignments.find?_onNames _ isKeptAs,
    ← Assignments.find?_onNames (Assignments.ofList first.environment) isKeptAs,
    Assignments.onNames_ofList, Assignments.onNames_ofList, environment]

theorem Agree.textsOfFile (agree : Agree kept first second) {file : String}
    (member : file ∈ first.files) : second.textsOfFile file = first.textsOfFile file := by
  have texts : Reference.resolve (.ofList second.environment)
        ((Dotenv.parse file).filterMap Dotenv.Statement.binding?) =
      Reference.resolve (.ofList first.environment)
        ((Dotenv.parse file).filterMap Dotenv.Statement.binding?) := by
    apply Reference.resolve_congr
    intro name isOutside
    exact agree.variables (agree.referenced name (List.mem_flatMap.mpr ⟨file, member, isOutside⟩))
  simp only [Sources.textsOfFile]
  rw [texts, agree.options]

theorem Agree.fileTexts (agree : Agree kept first second) : second.fileTexts = first.fileTexts := by
  unfold Sources.fileTexts
  rw [agree.files]
  exact congrArg Assignments.ofList
    (List.flatMap_congr fun file member => congrArg Assignments.pairs (agree.textsOfFile member))

/-- A field whose variable is kept has the same value. -/
theorem Agree.value? (agree : Agree kept first second) {field : String}
    (isKept : kept (first.options.variableName field) = true) :
    second.value? field = first.value? field := by
  unfold Sources.value?
  simp only [agree.options, agree.overrides, agree.fileTexts, agree.environmentTexts isKept]

end Sources

/-! ## Settings from such sources -/

/-- Settings that load hold what was read for each field. -/
theorem eq_of_ofSources {sources : Sources} {settings : Settings}
    (loaded : ofSources sources = .ok settings) :
    settings = {
      detectChanges := (readField sources detectChangesName true Value.toBool).1
      failOnDiff := (readField sources failOnDiffName false Value.toBool).1
      debug := (readField sources debugName false Value.toBool).1
      logFormat := (readField sources logFormatName ({} : Settings).logFormat Value.toText).1 } := by
  simp only [ofSources, Rejection.guard] at loaded
  split at loaded
  case isTrue => exact (Except.ok.inj loaded).symm
  case isFalse => cases loaded

theorem field_congr {α : Type} {name : String} {field : Settings → α} (isField : IsField name field)
    {first second : Sources} {settings other : Settings}
    (same : second.value? name = first.value? name) (isFirst : ofSources first = .ok settings)
    (isSecond : ofSources second = .ok other) : field other = field settings := by
  rw [eq_of_ofSources isFirst, eq_of_ofSources isSecond]
  cases isField with
  | detectChanges | failOnDiff | debug | logFormat => simp only [readField, same]

/-- The names that a settings file looks up in the environment, if it can be decoded. -/
def referencesOf (file : List UInt8) : List String :=
  match Text.Utf8.decode file with
  | .ok text => Reference.outsideNames [] ((Dotenv.parse text).filterMap Dotenv.Statement.binding?)
  | .error _ => []

/-- The sources of a run have the environment and, if there is a settings file, its text. -/
theorem ofRun_eq {environment : List (String × String)} {file : Option (List UInt8)}
    {sources : Sources} (areSources : Sources.ofRun environment file = .ok sources) :
    ∃ files, sources = { environment, files } ∧
      file.toList.mapM Text.Utf8.decode = .ok files := by
  unfold Sources.ofRun at areSources
  cases decoded : file.toList.mapM Text.Utf8.decode with
  | error cause =>
      rw [decoded] at areSources
      cases areSources
  | ok files =>
      rw [decoded] at areSources
      exact ⟨files, (Except.ok.inj areSources).symm, rfl⟩

theorem exists_of_mem_outsideNames {environment : List (String × String)} {file : Option (List UInt8)}
    {sources : Sources} (areSources : Sources.ofRun environment file = .ok sources) {name : String}
    (isOutside : name ∈ sources.outsideNames) : ∃ bytes ∈ file, name ∈ referencesOf bytes := by
  obtain ⟨files, rfl, decoded⟩ := ofRun_eq areSources
  cases file with
  | none =>
      obtain rfl := Except.ok.inj decoded
      cases isOutside
  | some bytes =>
      cases text : Text.Utf8.decode bytes with
      | error cause => simp [text, bind, Except.bind] at decoded
      | ok content =>
          simp only [Option.toList_some, List.mapM_cons, text, List.mapM_nil] at decoded
          obtain rfl := Except.ok.inj decoded
          refine ⟨bytes, rfl, ?_⟩
          simpa [Sources.outsideNames, referencesOf, text] using isOutside

/-- Settings that are loaded come from sources. -/
theorem exists_sources_of_loader {environment : List (String × String)} {file : Option (List UInt8)}
    {settings : Settings} (loaded : (loader environment file).result = .ok settings) :
    ∃ sources, Sources.ofRun environment file = .ok sources ∧ ofSources sources = .ok settings := by
  unfold loader at loaded
  cases areSources : Sources.ofRun environment file with
  | error cause =>
      rw [areSources] at loaded
      cases loaded
  | ok sources =>
      rw [areSources] at loaded
      refine ⟨sources, rfl, ?_⟩
      cases areSettings : ofSources sources with
      | error cause => simp [areSettings, Except.mapError] at loaded
      | ok other => simpa [areSettings, Except.mapError] using loaded

/-- The loader takes the fields from their own variables. -/
theorem loader_takesOwnVariables : loader.TakesOwnVariables referencesOf where
  field := by
    intro α name field isField kept isKept file referenced first second settings other agree loaded
      otherLoaded
    obtain ⟨sources, areSources, areSettings⟩ := exists_sources_of_loader loaded
    obtain ⟨others, areOthers, areOtherSettings⟩ := exists_sources_of_loader otherLoaded
    have isReferenced : ∀ name ∈ sources.outsideNames, kept (Text.lowerCase name) = true := by
      intro name isOutside
      obtain ⟨bytes, isFile, isReference⟩ := exists_of_mem_outsideNames areSources isOutside
      exact referenced bytes isFile name isReference
    obtain ⟨files, rfl, decoded⟩ := ofRun_eq areSources
    obtain ⟨otherFiles, rfl, otherDecoded⟩ := ofRun_eq areOthers
    obtain rfl := Except.ok.inj (decoded.symm.trans otherDecoded)
    have agrees : Sources.Agree kept { environment := first, files } { environment := second, files } :=
      ⟨rfl, rfl, rfl, agree, isReferenced⟩
    exact field_congr isField (agrees.value? isKept) areSettings areOtherSettings

end SurfaceDiff.Settings
