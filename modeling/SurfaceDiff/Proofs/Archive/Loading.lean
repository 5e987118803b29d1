import SurfaceDiff.Archive.Load
import SurfaceDiff.Proofs.Grouping
import SurfaceDiff.Proofs.Zip.Stored

/-!
Contract: the load of a sequence of entries, as a whole.

Owns: which names belong to the API, what a single entry does to a load, and `LoadsInOrder`, which says
how a load ends: with all classes of the API, or at the first entry that fails.
Does not own: how entries are found behind a path, and what there makes an entry fail.

Entries outside the API are passed over unread. They could matter in one way only: an entry that cannot
be looked at ends a load wherever it belongs. `Yields` says that a path gives its entries without such an
obstacle.
-/

namespace SurfaceDiff.Archive

/-! ## Names -/

/-- The name is that of a class file which stands for itself in every version of the platform. -/
def BelongsToApi (name : String) : Prop :=
  ".class".toList <:+ name.toList ∧ ¬"META-INF/versions/".toList <+: name.toList ∧
    lastSegment name ≠ "module-info.class"

instance (name : String) : Decidable (BelongsToApi name) := by
  unfold BelongsToApi
  infer_instance

theorem EntryKind.ofName_eq_api_iff (name : String) :
    EntryKind.ofName name = .api ↔ BelongsToApi name := by
  unfold EntryKind.ofName
  split_ifs with isClass versioned descriptor
  · exact iff_of_false (by decide) fun belongs => belongs.2.1 versioned
  · exact iff_of_false (by decide) fun belongs => belongs.2.2 descriptor
  · exact iff_of_true rfl ⟨isClass, versioned, descriptor⟩
  · exact iff_of_false (by decide) fun belongs => isClass belongs.1

/-- The entries of the API, in their order. -/
def apiEntries (entries : List Entry) : List Entry :=
  entries.filter fun entry => BelongsToApi entry.name

theorem apiEntries_cons_of_belongs {entry : Entry} (belongs : BelongsToApi entry.name)
    (rest : List Entry) : apiEntries (entry :: rest) = entry :: apiEntries rest :=
  List.filter_cons_of_pos (by simpa using belongs)

theorem apiEntries_cons_of_foreign {entry : Entry} (foreign : ¬BelongsToApi entry.name)
    (rest : List Entry) : apiEntries (entry :: rest) = apiEntries rest :=
  List.filter_cons_of_neg (by simpa using foreign)

namespace Entry

/-! ## What a single entry does -/

/-- The entry can be looked at. -/
def IsReachable (entry : Entry) : Prop :=
  entry.obstacle = none

/-- The entry can be read, and its bytes are those of this class. -/
def Holds (entry : Entry) (decl : ClassDecl) : Prop :=
  ∃ bytes, entry.read () = .ok bytes ∧ ClassFile.parse bytes = .ok decl

/-- The causes for which the load of an archive ends at an entry of it. -/
inductive Fails (path : String) (entry : Entry) : LoadError → Prop where
  | obstructed {cause : LoadError} (obstructed : entry.obstacle = some cause) :
    Fails path entry cause
  | unreadable {cause : LoadError} (clear : entry.obstacle = none)
    (belongs : BelongsToApi entry.name) (unread : entry.read () = .error cause) :
    Fails path entry cause
  | undecodable {bytes : List UInt8} {cause : ClassFile.FormatError} (clear : entry.obstacle = none)
    (belongs : BelongsToApi entry.name) (read : entry.read () = .ok bytes)
    (noClass : ClassFile.parse bytes = .error (.format cause)) :
    Fails path entry (.undecodableClass path entry.name cause)
  | rejected {bytes : List UInt8} {cause : Rejection} (clear : entry.obstacle = none)
    (belongs : BelongsToApi entry.name) (read : entry.read () = .ok bytes)
    (refused : ClassFile.parse bytes = .error (.rejected cause)) :
    Fails path entry (.rejectedClass cause)

/-- The entry lets a load go on. -/
def Passes (path : String) (entry : Entry) : Prop :=
  ∀ cause, ¬entry.Fails path cause

/-- The class that an entry adds to a load that goes on. -/
def class? (path : String) (entry : Entry) : Option ClassDecl :=
  if BelongsToApi entry.name then (readClass path entry).toOption else none

/-- The event of an entry that is passed over. -/
def skipEvent? (entry : Entry) : Option Log.Event :=
  (EntryKind.ofName entry.name).skipEvent? entry.name

theorem skipEvent?_eq_none {entry : Entry} (belongs : BelongsToApi entry.name) :
    entry.skipEvent? = none := by
  unfold skipEvent?
  rw [(EntryKind.ofName_eq_api_iff entry.name).mpr belongs]
  rfl

theorem level_of_skipEvent? {entry : Entry} {event : Log.Event} (logged : entry.skipEvent? = some event) :
    event.level = .debug := by
  unfold skipEvent? at logged
  cases kind : EntryKind.ofName entry.name with
  | foreign | api =>
      rw [kind] at logged
      cases logged
  | versioned | moduleDescriptor =>
      rw [kind] at logged
      obtain rfl := Option.some.inj logged
      rfl

variable {path : String} {entry : Entry}

theorem readClass_eq_ok_iff (path : String) (entry : Entry) (decl : ClassDecl) :
    readClass path entry = .ok decl ↔ entry.Holds decl := by
  unfold readClass Holds
  cases entry.read () with
  | error cause => simp
  | ok bytes =>
      cases parsed : ClassFile.parse bytes with
      | ok other => simp [parsed]
      | error fault => cases fault <;> simp [parsed]

theorem readClass_eq_error_iff {cause : LoadError} (clear : entry.obstacle = none)
    (belongs : BelongsToApi entry.name) :
    readClass path entry = .error cause ↔ entry.Fails path cause := by
  constructor
  · intro failed
    unfold readClass at failed
    split at failed
    case h_1 _ unread =>
      cases failed
      exact .unreadable clear belongs unread
    case h_2 bytes read =>
      split at failed
      case h_1 => cases failed
      case h_2 fault noClass =>
        cases failed
        exact .undecodable clear belongs read noClass
      case h_3 fault refused =>
        cases failed
        exact .rejected clear belongs read refused
  · intro fails
    unfold readClass
    cases fails with
    | obstructed obstructed =>
        rw [clear] at obstructed
        cases obstructed
    | unreadable _ _ unread => rw [unread]
    | undecodable _ _ read noClass => simp only [read, noClass]
    | rejected _ _ read refused => simp only [read, refused]

/-- An entry that lets a load go on can be looked at, and holds a class if it belongs to the API. -/
theorem passes_iff (path : String) (entry : Entry) :
    entry.Passes path ↔
      entry.IsReachable ∧ (BelongsToApi entry.name → ∃ decl, entry.Holds decl) := by
  constructor
  · intro passes
    have clear : entry.obstacle = none := by
      cases obstructed : entry.obstacle with
      | none => rfl
      | some cause => exact absurd (.obstructed obstructed) (passes cause)
    refine ⟨clear, fun belongs => ?_⟩
    cases read : readClass path entry with
    | ok decl => exact ⟨decl, (readClass_eq_ok_iff path entry decl).mp read⟩
    | error cause => exact absurd ((readClass_eq_error_iff clear belongs).mp read) (passes cause)
  · rintro ⟨clear, holds⟩ cause fails
    by_cases belongs : BelongsToApi entry.name
    · obtain ⟨decl, holds⟩ := holds belongs
      have failed := (readClass_eq_error_iff clear belongs).mpr fails
      rw [(readClass_eq_ok_iff path entry decl).mpr holds] at failed
      cases failed
    · cases fails with
      | obstructed obstructed =>
          rw [clear] at obstructed
          cases obstructed
      | unreadable _ inside => exact belongs inside
      | undecodable _ inside => exact belongs inside
      | rejected _ inside => exact belongs inside

theorem passes_or_fails (path : String) (entry : Entry) :
    entry.Passes path ∨ ∃ cause, entry.Fails path cause := by
  by_cases fails : ∃ cause, entry.Fails path cause
  · exact .inr fails
  · exact .inl fun cause failed => fails ⟨cause, failed⟩

theorem class?_of_holds {decl : ClassDecl} (path : String) (belongs : BelongsToApi entry.name)
    (holds : entry.Holds decl) : entry.class? path = some decl := by
  unfold class?
  rw [if_pos belongs, (readClass_eq_ok_iff path entry decl).mpr holds]
  rfl

theorem class?_eq_none (path : String) (foreign : ¬BelongsToApi entry.name) :
    entry.class? path = none :=
  if_neg foreign

end Entry

/-! ## What a run of entries does -/

/-- The classes that entries add to a load which goes through all of them. -/
def classesOf (path : String) (entries : List Entry) : List ClassDecl :=
  entries.filterMap (Entry.class? path)

/-- The events of those entries that are passed over. -/
def skipEvents (entries : List Entry) : List Log.Event :=
  entries.filterMap Entry.skipEvent?

variable {path : String}

theorem classesOf_cons (path : String) (entry : Entry) (rest : List Entry) :
    classesOf path (entry :: rest) = (entry.class? path).toList ++ classesOf path rest := by
  unfold classesOf
  cases added : entry.class? path <;> simp [added]

theorem skipEvents_cons (entry : Entry) (rest : List Entry) :
    skipEvents (entry :: rest) = entry.skipEvent?.toList ++ skipEvents rest := by
  unfold skipEvents
  cases skipped : entry.skipEvent? <;> simp [skipped]

theorem loadFrom_of_passes {entry : Entry} (passes : entry.Passes path) (classes : Array ClassDecl)
    (events : Array Log.Event) (rest : List Entry) :
    loadFrom path classes events (entry :: rest) =
      loadFrom path (classes ++ (entry.class? path).toArray) (events ++ entry.skipEvent?.toArray)
        rest := by
  obtain ⟨clear, holds⟩ := (Entry.passes_iff path entry).mp passes
  change entry.obstacle = none at clear
  by_cases belongs : BelongsToApi entry.name
  · obtain ⟨decl, holds⟩ := holds belongs
    have isApi := (EntryKind.ofName_eq_api_iff entry.name).mpr belongs
    have read := (Entry.readClass_eq_ok_iff path entry decl).mpr holds
    rw [Entry.class?_of_holds path belongs holds, Entry.skipEvent?_eq_none belongs]
    simp [loadFrom, clear, isApi, read]
  · rw [Entry.class?_eq_none path belongs]
    unfold Entry.skipEvent?
    cases kind : EntryKind.ofName entry.name with
    | api => exact absurd ((EntryKind.ofName_eq_api_iff _).mp kind) belongs
    | foreign => simp [loadFrom, clear, kind]
    | versioned => simp [loadFrom, clear, kind]
    | moduleDescriptor => simp [loadFrom, clear, kind]

theorem loadFrom_of_fails {entry : Entry} {cause : LoadError} (fails : entry.Fails path cause)
    (classes : Array ClassDecl) (events : Array Log.Event) (rest : List Entry) :
    loadFrom path classes events (entry :: rest) = ⟨.error cause, events⟩ := by
  have ofRead (clear : entry.obstacle = none) (belongs : BelongsToApi entry.name) :
      loadFrom path classes events (entry :: rest) = ⟨.error cause, events⟩ := by
    have isApi := (EntryKind.ofName_eq_api_iff entry.name).mpr belongs
    have failed := (Entry.readClass_eq_error_iff clear belongs).mpr fails
    simp [loadFrom, clear, isApi, failed]
  cases fails with
  | obstructed obstructed => simp [loadFrom, obstructed]
  | unreadable clear belongs => exact ofRead clear belongs
  | undecodable clear belongs => exact ofRead clear belongs
  | rejected clear belongs => exact ofRead clear belongs

/-- Entries that let a load go on leave their classes and their events behind. -/
theorem loadFrom_append {before : List Entry} (passes : ∀ entry ∈ before, entry.Passes path)
    (classes : Array ClassDecl) (events : Array Log.Event) (rest : List Entry) :
    loadFrom path classes events (before ++ rest) =
      loadFrom path (classes ++ (classesOf path before).toArray)
        (events ++ (skipEvents before).toArray) rest := by
  -- What has been read and logged so far moves on with each entry.
  induction before generalizing classes events with
  | nil => simp [classesOf, skipEvents]
  | cons entry before inductionHypothesis =>
      obtain ⟨passesHere, passes⟩ := List.forall_mem_cons.mp passes
      rw [List.cons_append, loadFrom_of_passes passesHere, inductionHypothesis passes]
      rw [classesOf_cons, skipEvents_cons, ← List.append_toArray, ← List.append_toArray,
        Option.toArray_toList, Option.toArray_toList, Array.append_assoc, Array.append_assoc]

theorem level_of_mem_skipEvents {entries : List Entry} {event : Log.Event}
    (skipped : event ∈ skipEvents entries) : event.level = .debug := by
  obtain ⟨entry, _, logged⟩ := List.mem_filterMap.mp skipped
  exact Entry.level_of_skipEvent? logged

theorem loadEntries_of_passes {entries : List Entry} (passes : ∀ entry ∈ entries, entry.Passes path) :
    loadEntries path entries =
      finish path (classesOf path entries) (skipEvents entries).toArray := by
  have all := loadFrom_append passes #[] #[] []
  rw [List.append_nil, Array.empty_append, Array.empty_append] at all
  exact all

theorem loadEntries_of_fails {before : List Entry} {entry : Entry} {cause : LoadError}
    (passes : ∀ earlier ∈ before, earlier.Passes path) (fails : entry.Fails path cause)
    (after : List Entry) :
    loadEntries path (before ++ entry :: after) = ⟨.error cause, (skipEvents before).toArray⟩ := by
  have start := loadFrom_append passes #[] #[] (entry :: after)
  rw [Array.empty_append, Array.empty_append, loadFrom_of_fails fails] at start
  exact start

/-! ## Classes and the entries that hold them -/

theorem forall₂_holds {entries : List Entry} (passes : ∀ entry ∈ entries, entry.Passes path) :
    List.Forall₂ Entry.Holds (apiEntries entries) (classesOf path entries) := by
  induction entries with
  | nil => exact .nil
  | cons entry rest inductionHypothesis =>
      obtain ⟨passesHere, passes⟩ := List.forall_mem_cons.mp passes
      have later := inductionHypothesis passes
      rw [classesOf_cons]
      by_cases belongs : BelongsToApi entry.name
      · obtain ⟨decl, holds⟩ := ((Entry.passes_iff path entry).mp passesHere).2 belongs
        rw [apiEntries_cons_of_belongs belongs, Entry.class?_of_holds path belongs holds]
        exact .cons holds later
      · rw [apiEntries_cons_of_foreign belongs, Entry.class?_eq_none path belongs]
        exact later

/-- If all entries can be looked at, those outside the API may as well be left out. -/
theorem result_loadFrom_apiEntries {entries : List Entry}
    (reachable : ∀ entry ∈ entries, entry.IsReachable) (classes : Array ClassDecl)
    (events others : Array Log.Event) :
    (loadFrom path classes events entries).result =
      (loadFrom path classes others (apiEntries entries)).result := by
  -- The two sides read the same classes, but only the left one logs what it passes over.
  induction entries generalizing classes events others with
  | nil => rfl
  | cons entry rest inductionHypothesis =>
      obtain ⟨reachableHere, reachable⟩ := List.forall_mem_cons.mp reachable
      have later := inductionHypothesis reachable
      by_cases belongs : BelongsToApi entry.name
      · rw [apiEntries_cons_of_belongs belongs]
        rcases entry.passes_or_fails path with passes | ⟨cause, fails⟩
        · rw [loadFrom_of_passes passes, loadFrom_of_passes passes]
          exact later _ _ _
        · rw [loadFrom_of_fails fails, loadFrom_of_fails fails]
      · have passes : entry.Passes path :=
          (Entry.passes_iff path entry).mpr
            ⟨reachableHere, fun inside => absurd inside belongs⟩
        rw [apiEntries_cons_of_foreign belongs, loadFrom_of_passes passes,
          Entry.class?_eq_none path belongs]
        exact later _ _ _

/-! ## How a load ends -/

/-- The entry is the first of these that does not let the load go on. -/
def FailsFirst (path : String) (entries : List Entry) (entry : Entry) (cause : LoadError) : Prop :=
  ∃ before after, entries = before ++ entry :: after ∧
    (∀ earlier ∈ before, earlier.Passes path) ∧ entry.Fails path cause

theorem passes_or_failsFirst (path : String) (entries : List Entry) :
    (∀ entry ∈ entries, entry.Passes path) ∨
      ∃ entry cause, FailsFirst path entries entry cause := by
  induction entries with
  | nil => exact .inl fun _ isEntry => absurd isEntry List.not_mem_nil
  | cons entry rest inductionHypothesis =>
      rcases entry.passes_or_fails path with passesHere | ⟨cause, fails⟩
      · rcases inductionHypothesis with passes | ⟨later, cause, before, after, rfl, passes, fails⟩
        · exact .inl (List.forall_mem_cons.mpr ⟨passesHere, passes⟩)
        · exact .inr ⟨later, cause, entry :: before, after, rfl,
            List.forall_mem_cons.mpr ⟨passesHere, passes⟩, fails⟩
      · exact .inr ⟨entry, cause, [], rest, rfl, fun _ isEntry => absurd isEntry List.not_mem_nil,
          fails⟩

/-- How a load of these entries ends. The entries outside the API and those behind the one that fails
have no part in it. -/
structure LoadsInOrder (path : String) (entries : List Entry) (loaded : Loaded) : Prop where
  ok_iff : (∃ surface, loaded.result = .ok surface) ↔
    ∀ entry ∈ apiEntries entries, ∃ decl, entry.Holds decl
  of_ok : ∀ surface, loaded.result = .ok surface →
    ∃ classes, List.Forall₂ Entry.Holds (apiEntries entries) classes ∧
      surface = ⟨.ofString path, groupByPackage classes⟩ ∧
      surface.typeCount = (apiEntries entries).length
  error_iff : ∀ cause, loaded.result = .error cause ↔
    ∃ entry, FailsFirst path (apiEntries entries) entry cause
  /-- A class that cannot be decoded is a fault of the archive; the message names the path and the entry. -/
  wrapped : ∀ name cause,
    loaded.result = .error (.undecodableClass path name cause) →
      (LoadError.undecodableClass path name cause).IsArchiveFault ∧
        (LoadError.undecodableClass path name cause).message =
          s!"{path}: cannot decode {name}: {cause.message}"
  infos : (loaded.events.toList.filter fun event => event.level = .info) =
    match loaded.result with
    | .ok surface => [.surfaceLoaded surface.typeCount surface.packages.length path]
    | .error _ => []
  message : ∀ surface, loaded.result = .ok surface →
    ((loaded.events.toList.filter fun event => event.level = .info).map fun event =>
        event.record.message) =
      [s!"Loaded {surface.typeCount} types in {surface.packages.length} packages from {path}"]
  of_same_api : ∀ others, (∀ entry ∈ others, Entry.IsReachable entry) →
    apiEntries others = apiEntries entries → (loadEntries path others).result = loaded.result
  of_same_start : ∀ before entry after cause, entries = before ++ entry :: after →
    (∀ earlier ∈ before, Entry.Passes path earlier) → Entry.Fails path entry cause →
    ∀ others, loadEntries path (before ++ entry :: others) = loaded

theorem all_pass_iff (path : String) (entries : List Entry) :
    (∀ entry ∈ entries, entry.Passes path) ↔
      (∀ entry ∈ entries, entry.IsReachable) ∧
        ∀ entry ∈ apiEntries entries, ∃ decl, entry.Holds decl := by
  unfold apiEntries
  constructor
  · intro passes
    refine ⟨fun entry isEntry => ((Entry.passes_iff path entry).mp (passes entry isEntry)).1, ?_⟩
    intro entry inApi
    obtain ⟨isEntry, belongs⟩ := List.mem_filter.mp inApi
    exact ((Entry.passes_iff path entry).mp (passes entry isEntry)).2 (of_decide_eq_true belongs)
  · intro reads entry isEntry
    exact (Entry.passes_iff path entry).mpr ⟨reads.1 entry isEntry, fun belongs =>
      reads.2 entry (List.mem_filter.mpr ⟨isEntry, decide_eq_true belongs⟩)⟩

/-- Passing over entries is logged below the level of what a load has to tell. -/
theorem infos_skipEvents (entries : List Entry) :
    ((skipEvents entries).filter fun event => event.level = .info) = [] := by
  rw [List.filter_eq_nil_iff]
  intro event skipped
  rw [level_of_mem_skipEvents skipped]
  decide

theorem message_surfaceLoaded (types packages : Nat) (source : String) :
    (Log.Event.surfaceLoaded types packages source).record.message =
      s!"Loaded {types} types in {packages} packages from {source}" := by
  simp only [Log.Record.message, Log.Event.record, Log.Event.parts, List.map_cons, List.map_nil,
    Log.Part.inMessage, Log.Argument.shown, String.join, List.foldl_cons, List.foldl_nil,
    String.empty_append]
  rfl

theorem infos_loadEntries (path : String) (entries : List Entry) :
    ((loadEntries path entries).events.toList.filter fun event => event.level = .info) =
      match (loadEntries path entries).result with
      | .ok surface => [.surfaceLoaded surface.typeCount surface.packages.length path]
      | .error _ => [] := by
  rcases passes_or_failsFirst path entries with passes | ⟨entry, cause, first⟩
  · rw [loadEntries_of_passes passes]
    have count := typeCount_groupByPackage (.ofString path) (classesOf path entries)
    simp only [finish, Array.toList_push, List.filter_append, infos_skipEvents, count]
    rfl
  · obtain ⟨before, after, rfl, passes, fails⟩ := first
    rw [loadEntries_of_fails passes fails]
    exact infos_skipEvents before

theorem loadEntries_eq_error_iff (entries : List Entry) (cause : LoadError) :
    (loadEntries path entries).result = .error cause ↔
      ∃ entry, FailsFirst path entries entry cause := by
  constructor
  · intro failed
    rcases passes_or_failsFirst path entries with passes | ⟨entry, other, first⟩
    · rw [loadEntries_of_passes passes] at failed
      cases failed
    · obtain ⟨before, after, rfl, passes, fails⟩ := first
      rw [loadEntries_of_fails passes fails] at failed
      cases failed
      exact ⟨entry, before, after, rfl, passes, fails⟩
  · rintro ⟨entry, before, after, rfl, passes, fails⟩
    rw [loadEntries_of_fails passes fails]

theorem result_loadEntries_apiEntries {entries : List Entry}
    (reachable : ∀ entry ∈ entries, entry.IsReachable) :
    (loadEntries path entries).result = (loadEntries path (apiEntries entries)).result :=
  result_loadFrom_apiEntries reachable #[] #[] #[]

theorem passes_of_ok {entries : List Entry} {surface : Surface}
    (loaded : (loadEntries path entries).result = .ok surface) :
    ∀ entry ∈ entries, entry.Passes path := by
  rcases passes_or_failsFirst path entries with passes | ⟨entry, cause, first⟩
  · exact passes
  · obtain ⟨before, after, rfl, passes, fails⟩ := first
    rw [loadEntries_of_fails passes fails] at loaded
    cases loaded

theorem exists_classes_of_ok {entries : List Entry} {surface : Surface}
    (loaded : (loadEntries path entries).result = .ok surface) :
    ∃ classes, List.Forall₂ Entry.Holds (apiEntries entries) classes ∧
      surface = ⟨.ofString path, groupByPackage classes⟩ ∧
      surface.typeCount = (apiEntries entries).length := by
  have passes := passes_of_ok loaded
  have holds := forall₂_holds passes
  rw [loadEntries_of_passes passes] at loaded
  obtain rfl := Except.ok.inj loaded
  refine ⟨classesOf path entries, holds, rfl, ?_⟩
  rw [typeCount_groupByPackage, holds.length_eq]

theorem loadEntries_in_order (path : String) {entries : List Entry}
    (reachable : ∀ entry ∈ entries, entry.IsReachable) :
    LoadsInOrder path entries (loadEntries path entries) := by
  constructor
  case ok_iff =>
    have all := all_pass_iff path entries
    constructor
    · rintro ⟨surface, loaded⟩
      exact (all.mp (passes_of_ok loaded)).2
    · intro holds
      rw [loadEntries_of_passes (all.mpr ⟨reachable, holds⟩)]
      exact ⟨_, rfl⟩
  case of_ok => exact fun surface loaded => exists_classes_of_ok loaded
  case error_iff =>
    intro cause
    rw [result_loadEntries_apiEntries reachable]
    exact loadEntries_eq_error_iff (apiEntries entries) cause
  case wrapped => exact fun _ _ _ => ⟨trivial, rfl⟩
  case infos => exact infos_loadEntries path entries
  case message =>
    intro surface loaded
    rw [infos_loadEntries, loaded, List.map_singleton, message_surfaceLoaded]
  case of_same_api =>
    intro others othersReachable same
    rw [result_loadEntries_apiEntries reachable, result_loadEntries_apiEntries othersReachable, same]
  case of_same_start =>
    rintro before entry after cause rfl passes fails others
    rw [loadEntries_of_fails passes fails, loadEntries_of_fails passes fails]

/-! ## What a path yields -/

/-- The path leads to an archive or a directory with these entries, and each of them can be looked at. -/
structure Yields (platform : Platform) (path : Files.Path) (found : Files.Found) (entries : List Entry) :
    Prop where
  opened : entriesOf platform path found = .ok entries
  reachable : ∀ entry ∈ entries, entry.IsReachable

/-- An archive yields its entries if the library can tell of each of them whether it is a directory. -/
theorem yields_of_zip {platform : Platform} {content : ByteArray} {located : List Zip.Located}
    (tells : platform.TellsDirectories) (opened : Zip.Directory.read content = .ok located)
    (path : Files.Path) :
    Yields platform path (.file (.ok content)) (located.map (zipEntry platform path.text content)) where
  opened := by
    show zipEntries platform path.text (.ok content) = _
    simp only [zipEntries, opened]
  reachable := by
    intro entry isEntry
    obtain ⟨source, _, rfl⟩ := List.mem_map.mp isEntry
    show (platform.nameFault? source.record.name).map (ofRaised path.text) = none
    rw [tells]
    rfl

/-- **A load reads the classes of the API in order, up to the first entry that fails.** -/
theorem load_in_order (platform : Platform) (lookUp : Files.Path → Files.Found) (path : Files.Path)
    (entries : List Entry) (yields : Yields platform path (lookUp path) entries) :
    LoadsInOrder path.text entries (load platform lookUp path) := by
  unfold load
  rw [yields.opened]
  exact loadEntries_in_order path.text yields.reachable

/-! ## A jar with entries of all kinds

Its first class file is for one version of the platform only, and damaged; the second is sound, the third
is cut off, and the fourth is damaged again. -/

section Sample

open Zip

/-- A class file that says no more than the name of its class. -/
def classBytes (name : String) : List UInt8 :=
  [0xCA, 0xFE, 0xBA, 0xBE, 0, 0, 0, 0x34, 0, 3, 1, 0, name.length.toUInt8] ++ asciiBytes name ++
    [7, 0, 1, 0, 0x21, 0, 2, 0, 0, 0, 0, 0, 0, 0, 0, 0, 0]

def soundFile : StoredFile :=
  ⟨"A.class", classBytes "A", [0x61, 0x02, 0xCE, 0x52], 111⟩

def cutFile : StoredFile :=
  ⟨"B.class", [0xCA, 0xFE, 0xBA, 0xBE, 0, 0], [0xA9, 0x0F, 0xBA, 0x4B], 68⟩

def mixedFiles : List StoredFile :=
  [⟨"p/", [], [0, 0, 0, 0], 237⟩, ⟨"META-INF/versions/9/A.class", [1], [0, 0, 0, 0], 179⟩, soundFile,
    cutFile, ⟨"C.class", classBytes "C", [0, 0, 0, 0], 0⟩]

def mixedJar : ByteArray := storedArchive mixedFiles

def soundLocated : Located := ⟨soundFile.record, 111, 179⟩

def cutLocated : Located := ⟨cutFile.record, 68, 111⟩

def mixedLocated : List Located :=
  (mixedFiles.zip [269, 237, 179, 111, 68]).map fun (file, stop) => ⟨file.record, file.offset, stop⟩

theorem read_mixedJar : Directory.read mixedJar = .ok mixedLocated := by
  unfold mixedJar
  rw [read_storedArchive (by decide +kernel) (by decide +kernel)]
  -- The records come from the last place to the first, so neither sort moves them.
  unfold Directory.locate
  simp (disch := decide +kernel) only [List.mergeSort_of_pairwise]
  decide +kernel

/-- The entries that a load reads from the jar. -/
def mixedEntries : List Entry :=
  mixedLocated.map (zipEntry {} "lib.jar" mixedJar)

theorem soundEntry_passes : (zipEntry {} "lib.jar" mixedJar soundLocated).Passes "lib.jar" := by
  refine (Entry.passes_iff _ _).mpr ⟨rfl, fun _ => ?_⟩
  have read : Zip.Entry.read {} mixedJar soundLocated = .ok ⟨(classBytes "A").toArray⟩ :=
    read_storedFile {} (by decide +kernel) (mixedFiles.take 2) (mixedFiles.drop 3) rfl rfl (by decide)
  have parsed : ClassFile.parse (classBytes "A") =
      .ok { name := "A", accessFlags := 0x21, name_ne_empty := by decide } := by
    decide +kernel
  exact ⟨_, _, by simp only [zipEntry, read], parsed⟩

theorem cutEntry_fails : (zipEntry {} "lib.jar" mixedJar cutLocated).Fails "lib.jar"
    (.undecodableClass "lib.jar" "B.class" (.truncatedBlock 8 0)) := by
  have read : Zip.Entry.read {} mixedJar cutLocated = .ok ⟨cutFile.data.toArray⟩ :=
    read_storedFile {} (by decide +kernel) (mixedFiles.take 3) (mixedFiles.drop 4) rfl rfl (by decide)
  have cut : ClassFile.parse cutFile.data = .error (.format (.truncatedBlock 8 0)) := by decide +kernel
  exact .undecodable rfl (by decide +kernel) (by simp only [zipEntry, read]) cut

/-- The entry that is cut off ends the load, neither the damaged one in front of it, which is passed over,
nor the one behind it. -/
theorem load_in_order_mixed :
    Yields {} ⟨"", ["lib.jar"]⟩ (.file (.ok mixedJar)) mixedEntries ∧
      (apiEntries mixedEntries).map Entry.name = ["A.class", "B.class", "C.class"] ∧
      LoadsInOrder "lib.jar" mixedEntries
        (load {} (fun _ => .file (.ok mixedJar)) ⟨"", ["lib.jar"]⟩) ∧
      (load {} (fun _ => .file (.ok mixedJar)) ⟨"", ["lib.jar"]⟩).result =
        .error (.undecodableClass "lib.jar" "B.class" (.truncatedBlock 8 0)) := by
  have yields : Yields {} ⟨"", ["lib.jar"]⟩ (.file (.ok mixedJar)) mixedEntries :=
    yields_of_zip (fun _ => rfl) read_mixedJar _
  have inOrder := load_in_order {} (fun _ => .file (.ok mixedJar)) ⟨"", ["lib.jar"]⟩ _ yields
  refine ⟨yields, by decide +kernel, inOrder,
    (inOrder.error_iff _).mpr ⟨zipEntry {} "lib.jar" mixedJar cutLocated, ?first⟩⟩
  case first =>
    refine ⟨[zipEntry {} "lib.jar" mixedJar soundLocated], _, rfl, ?_, cutEntry_fails⟩
    intro earlier isEarlier
    rw [List.mem_singleton.mp isEarlier]
    exact soundEntry_passes

end Sample

end SurfaceDiff.Archive
