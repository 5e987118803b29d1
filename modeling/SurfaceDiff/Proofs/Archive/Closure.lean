import Mathlib.Control.Monad.Basic
import SurfaceDiff.Command.Run
import SurfaceDiff.Proofs.Archive.Loading
import SurfaceDiff.Proofs.ClassFile.Acceptance
import SurfaceDiff.Proofs.Zip.Faults

/-!
Contract: every way in which a load can end, for any path and whatever lies behind it.

Owns: `Unforeseen`, the defects of an input that end its load for a cause which is no fault of the
archive; that there are no others; and the exit codes that follow.
Does not own: the order in which several defects count.

Some defects are in the bytes or in the paths. The others are those that the system or the library meets
and speaks of in a way that no handler around the load knows.
-/

namespace SurfaceDiff.Archive

open Text

/-- The defects behind a path that end a load, but not as a fault of the archive. -/
inductive Unforeseen (platform : Platform) (path : Files.Path) : Files.Found → LoadError → Prop where
  | longName : Unforeseen platform path .nameTooLong (.nameTooLong path.text)
  | unreachable {refusal : Files.Refusal} :
    Unforeseen platform path (.unreachable refusal) (.refused refusal)
  | longPath {contents : Files.Contents} {components : List String}
    (inside : components ∈ contents.directories.map Files.Directory.components ∨
      components ∈ contents.members.map Files.Member.components)
    (tooLong : (path.below components).IsTooLong) :
    Unforeseen platform path (.directory contents) (.nameTooLong (path.below components).text)
  | deepWalk {contents : Files.Contents} {directory : Files.Directory} {deepest : Nat}
    (limit : platform.deepestWalk = some deepest) (inside : directory ∈ contents.directories)
    (tooDeep : deepest < directory.components.length) :
    Unforeseen platform path (.directory contents) .walkTooDeep
  | unsearchable {contents : Files.Contents} {directory : Files.Directory} {refusal : Files.Refusal}
    (inside : directory ∈ contents.directories) (unsearched : directory.refusal = some refusal) :
    Unforeseen platform path (.directory contents) (.refused refusal)
  | unreachableFile {contents : Files.Contents} {member : Files.Member} {refusal : Files.Refusal}
    (inside : member ∈ contents.members) (unreachable : member.content = .error (.unreachable refusal)) :
    Unforeseen platform path (.directory contents) (.refused refusal)
  | undecodableName {content : ByteArray} {name : List UInt8} {cause : Utf8.DecodeError}
    (inside : name <:+: content.data.toList) (undecodable : Utf8.decode name = .error cause) :
    Unforeseen platform path (.file (.ok content)) (.undecodableName cause)
  | unsupportedVersion {content : ByteArray} {fixed name : List UInt8}
    (holds : Zip.Directory.HoldsRecord content.data.toList fixed name)
    (tooHigh : Zip.Directory.highestVersion < Zip.field fixed 6 1) :
    Unforeseen platform path (.file (.ok content)) (.unsupportedVersion (Zip.field fixed 6 1))
  | offsetTooLarge {content : ByteArray} {located : List Zip.Located} {entry : Zip.Located}
    (opened : Zip.Directory.read content = .ok located) (isEntry : entry ∈ located)
    (outside : entry.offset < -Zip.Entry.offsetLimit ∨ Zip.Entry.offsetLimit ≤ entry.offset) :
    Unforeseen platform path (.file (.ok content)) .offsetTooLarge
  | faultyName {content : ByteArray} {located : List Zip.Located} {entry : Zip.Located} {cause : Raised}
    (opened : Zip.Directory.read content = .ok located) (isEntry : entry ∈ located)
    (raises : platform.nameFault? entry.record.name = some cause)
    (unhandled : cause.kind ≠ .notAnArchive ∧ cause.kind ≠ .system) :
    Unforeseen platform path (.file (.ok content)) (.raised cause)
  | faultyData {content : ByteArray} {located : List Zip.Located} {entry : Zip.Located} {cause : Raised}
    {kind : String} (opened : Zip.Directory.read content = .ok located) (isEntry : entry ∈ located)
    (raises : Zip.Entry.Raises platform content entry cause) (unhandled : cause.kind = .other kind) :
    Unforeseen platform path (.file (.ok content)) (.raised cause)
  | rejectedClass {found : Files.Found} {entries : List Entry} {entry : Entry} {bytes : List UInt8}
    {contents : ClassFile.Contents} {cause : Rejection}
    (opened : entriesOf platform path found = .ok entries)
    (isEntry : entry ∈ entries) (belongs : BelongsToApi entry.name)
    (read : entry.read () = .ok bytes) (declares : ClassFile.Declares bytes contents)
    (refused : ClassFile.Refused contents.name cause) :
    Unforeseen platform path found (.rejectedClass cause)

theorem Unforeseen.not_isArchiveFault {platform : Platform} {path : Files.Path} {found : Files.Found}
    {cause : LoadError} (unforeseen : Unforeseen platform path found cause) : ¬cause.IsArchiveFault := by
  cases unforeseen <;> exact id

/-- The load ends with a fault of the archive or for an unforeseen defect. -/
def Accounted (platform : Platform) (path : Files.Path) (found : Files.Found) (cause : LoadError) :
    Prop :=
  cause.IsArchiveFault ∨ Unforeseen platform path found cause

variable {platform : Platform} {path : Files.Path}

/-! ## Opening -/

theorem accounted_of_zipEntries {content : Except Files.Refusal ByteArray} {cause : LoadError}
    (failed : zipEntries platform path.text content = .error cause) :
    Accounted platform path (.file content) cause := by
  unfold zipEntries at failed
  split at failed
  case h_1 =>
    cases failed
    exact .inl trivial
  case h_2 content =>
    split at failed
    case h_1 fault unopened =>
      cases failed
      rcases Zip.Directory.read_fault unopened with rfl | ⟨fixed, name, holds, fault⟩
      · exact .inl trivial
      · cases fault with
        | malformed => exact .inl trivial
        | undecodableName undecodable =>
            have inside : name <:+: content.data.toList :=
              (List.suffix_append fixed name).isInfix.trans holds.inside
            exact .inr (.undecodableName inside undecodable)
        | unsupportedVersion tooHigh => exact .inr (.unsupportedVersion holds tooHigh)
    case h_2 => cases failed

theorem tooLong_of_pathFault? {components : List String} {cause : LoadError}
    (fault : pathFault? path components = some cause) :
    (path.below components).IsTooLong ∧ cause = .nameTooLong (path.below components).text := by
  by_cases tooLong : (path.below components).IsTooLong
  · have here : pathFault? path components = some (.nameTooLong (path.below components).text) :=
      if_pos tooLong
    rw [here] at fault
    exact ⟨tooLong, (Option.some.inj fault).symm⟩
  · have clear : pathFault? path components = none := if_neg tooLong
    rw [clear] at fault
    cases fault

theorem accounted_of_searchFault? {contents : Files.Contents} {directory : Files.Directory}
    {cause : LoadError} (isDirectory : directory ∈ contents.directories)
    (fault : searchFault? platform path directory = some cause) :
    Accounted platform path (.directory contents) cause := by
  unfold searchFault? at fault
  split at fault
  case isTrue tooDeep =>
    cases fault
    obtain ⟨deepest, limit, isDeeper⟩ := (Option.any_eq_true _ _).mp tooDeep
    exact .inr (.deepWalk limit isDirectory (of_decide_eq_true isDeeper))
  case isFalse =>
    rcases Option.or_eq_some_iff.mp fault with unreached | ⟨_, refused⟩
    · obtain ⟨tooLong, rfl⟩ := tooLong_of_pathFault? unreached
      exact .inr (.longPath (.inl (List.mem_map_of_mem isDirectory)) tooLong)
    · obtain ⟨refusal, unsearched, rfl⟩ := Option.map_eq_some_iff.mp refused
      exact .inr (.unsearchable isDirectory unsearched)

theorem accounted_of_directoryEntries {contents : Files.Contents} {cause : LoadError}
    (failed : directoryEntries platform path contents = .error cause) :
    Accounted platform path (.directory contents) cause := by
  unfold directoryEntries at failed
  split at failed
  case h_1 fault unreached =>
    cases failed
    obtain ⟨directory, isDirectory, fault⟩ := List.exists_of_findSome?_eq_some unreached
    exact accounted_of_searchFault? isDirectory fault
  case h_2 => cases failed

theorem accounted_of_entriesOf {found : Files.Found} {cause : LoadError}
    (failed : entriesOf platform path found = .error cause) : Accounted platform path found cause := by
  cases found with
  | missing =>
      cases failed
      exact .inl trivial
  | nameTooLong =>
      cases failed
      exact .inr .longName
  | unreachable refusal =>
      cases failed
      exact .inr .unreachable
  | file content => exact accounted_of_zipEntries failed
  | directory contents => exact accounted_of_directoryEntries failed

/-! ## Entries -/

/-- An entry that fails is accounted for if the sources of its failure are: what is in its way, and its
reading. What it says when read is accounted for in itself. -/
theorem accounted_of_fails {found : Files.Found} {entries : List Entry} {entry : Entry}
    {cause : LoadError} (opened : entriesOf platform path found = .ok entries)
    (isEntry : entry ∈ entries)
    (obstructed : ∀ cause, entry.obstacle = some cause → Accounted platform path found cause)
    (unreadable : ∀ cause, entry.read () = .error cause → Accounted platform path found cause)
    (fails : entry.Fails path.text cause) : Accounted platform path found cause := by
  cases fails with
  | obstructed obstacle => exact obstructed _ obstacle
  | unreadable _ _ unread => exact unreadable _ unread
  | undecodable => exact .inl trivial
  | rejected _ belongs read refused =>
      obtain ⟨contents, declares, refused⟩ := (ClassFile.parse_eq_rejected_iff _ _).mp refused
      exact .inr (.rejectedClass opened isEntry belongs read declares refused)

/-- Two kinds of exceptions are handled around a whole archive. -/
theorem ofRaised_fault (text : String) (cause : Raised) :
    (ofRaised text cause).IsArchiveFault ∨
      ofRaised text cause = .raised cause ∧ cause.kind ≠ .notAnArchive ∧ cause.kind ≠ .system := by
  unfold ofRaised
  cases kind : cause.kind with
  | notAnArchive => exact .inl trivial
  | system => exact .inl trivial
  | corruptStream | endOfFile | notImplemented | runtime | other =>
      exact .inr ⟨rfl, nofun, nofun⟩

/-- Around the reading of an entry all kinds are handled that have a name here. -/
theorem ofEntryRaised_fault (text name : String) (cause : Raised) :
    (ofEntryRaised text name cause).IsArchiveFault ∨
      ofEntryRaised text name cause = .raised cause ∧ ∃ other, cause.kind = .other other := by
  unfold ofEntryRaised ofRaised
  cases kind : cause.kind with
  | other name => exact .inr ⟨rfl, name, rfl⟩
  | corruptStream | endOfFile | notImplemented | runtime | notAnArchive | system => exact .inl trivial

section Zip

variable {content : ByteArray} {located : List Zip.Located} {entry : Zip.Located}

theorem accounted_of_zipError {fault : Zip.ReadError}
    (directory : Zip.Directory.read content = .ok located) (isEntry : entry ∈ located)
    (unread : Zip.Entry.read platform content entry = .error fault) :
    Accounted platform path (.file (.ok content)) (zipError path.text entry.record.name fault) := by
  cases Zip.Entry.read_fault unread with
  | malformed => exact .inl trivial
  | invalidOffset => exact .inl trivial
  | unreadable => exact .inl trivial
  | offsetTooLarge outside => exact .inr (.offsetTooLarge directory isEntry outside)
  | undecodableName inside undecodable => exact .inr (.undecodableName inside undecodable)
  | raised raises =>
      simp only [zipError]
      rcases ofEntryRaised_fault path.text entry.record.name _ with isFault | ⟨same, kind, isKind⟩
      · exact .inl isFault
      · rw [same]
        exact .inr (.faultyData directory isEntry raises isKind)

theorem accounted_of_nameFault {cause : LoadError}
    (directory : Zip.Directory.read content = .ok located) (isEntry : entry ∈ located)
    (obstacle : (zipEntry platform path.text content entry).obstacle = some cause) :
    Accounted platform path (.file (.ok content)) cause := by
  obtain ⟨raised, raises, rfl⟩ := Option.map_eq_some_iff.mp obstacle
  rcases ofRaised_fault path.text raised with isFault | ⟨same, unhandled⟩
  · exact .inl isFault
  · rw [same]
    exact .inr (.faultyName directory isEntry raises unhandled)

end Zip

theorem accounted_of_zip_fails {content : Except Files.Refusal ByteArray} {entries : List Entry}
    {entry : Entry} {cause : LoadError}
    (opened : zipEntries platform path.text content = .ok entries)
    (isEntry : entry ∈ entries) (fails : entry.Fails path.text cause) :
    Accounted platform path (.file content) cause := by
  have found : entriesOf platform path (.file content) = .ok entries := opened
  unfold zipEntries at opened
  split at opened
  case h_1 => cases opened
  case h_2 content =>
    split at opened
    case h_1 => cases opened
    case h_2 located directory =>
      obtain rfl := Except.ok.inj opened
      obtain ⟨inside, isInside, rfl⟩ := List.mem_map.mp isEntry
      refine accounted_of_fails found isEntry ?obstructed ?unreadable fails
      case obstructed => exact fun cause obstacle => accounted_of_nameFault directory isInside obstacle
      case unreadable =>
        intro cause unread
        dsimp only [zipEntry] at unread
        split at unread
        case h_1 => cases unread
        case h_2 fault failed =>
          cases unread
          exact accounted_of_zipError directory isInside failed

theorem accounted_of_memberFault? {contents : Files.Contents} {member : Files.Member}
    {cause : LoadError} (isMember : member ∈ contents.members)
    (fault : memberFault? path member = some cause) :
    Accounted platform path (.directory contents) cause := by
  unfold memberFault? at fault
  split at fault
  case h_1 obstructed =>
    cases fault
    obtain ⟨tooLong, rfl⟩ := tooLong_of_pathFault? obstructed
    exact .inr (.longPath (.inr (List.mem_map_of_mem isMember)) tooLong)
  case h_2 refusal _ unreachable =>
    cases fault
    exact .inr (.unreachableFile isMember unreachable)
  case h_3 => cases fault

theorem accounted_of_directory_fails {contents : Files.Contents} {entries : List Entry}
    {entry : Entry} {cause : LoadError}
    (opened : directoryEntries platform path contents = .ok entries) (isEntry : entry ∈ entries)
    (fails : entry.Fails path.text cause) : Accounted platform path (.directory contents) cause := by
  have found : entriesOf platform path (.directory contents) = .ok entries := opened
  unfold directoryEntries at opened
  split at opened
  case h_1 => cases opened
  case h_2 =>
    obtain rfl := Except.ok.inj opened
    obtain ⟨member, isMember, rfl⟩ := List.mem_map.mp isEntry
    obtain ⟨isMember, _⟩ := List.mem_filter.mp (List.mem_mergeSort.mp isMember)
    refine accounted_of_fails found isEntry ?obstructed ?unreadable fails
    case obstructed => exact fun cause obstacle => accounted_of_memberFault? isMember obstacle
    case unreadable =>
      -- Whatever keeps the file from being read, it is handled here.
      intro cause unread
      dsimp only [memberEntry] at unread
      split at unread
      case h_1 => cases unread
      case h_2 =>
        cases unread
        exact .inl trivial
      case h_3 =>
        cases unread
        exact .inl trivial

/-! ## Loads -/

theorem accounted_of_load {lookUp : Files.Path → Files.Found} {cause : LoadError}
    (failed : (load platform lookUp path).result = .error cause) :
    Accounted platform path (lookUp path) cause := by
  unfold load at failed
  cases opened : entriesOf platform path (lookUp path) with
  | error fault =>
      rw [opened] at failed
      cases failed
      exact accounted_of_entriesOf opened
  | ok entries =>
      rw [opened] at failed
      obtain ⟨entry, before, after, rfl, _, fails⟩ :=
        (loadEntries_eq_error_iff entries cause).mp failed
      have isEntry : entry ∈ before ++ entry :: after := List.mem_append_right _ List.mem_cons_self
      cases found : lookUp path with
      | missing | nameTooLong | unreachable =>
          rw [found] at opened
          cases opened
      | file content =>
          rw [found] at opened
          exact accounted_of_zip_fails opened isEntry fails
      | directory contents =>
          rw [found] at opened
          exact accounted_of_directory_fails opened isEntry fails

/-! ## Runs of the command -/

/-- A run ends with the exit code for faults of archives, or as an error of the program. -/
def EndsFor (platform : Platform) (path : Files.Path) (found : Files.Found) (cause : LoadError)
    (finished : Command.Finished) : Prop :=
  (cause.IsArchiveFault ∧ finished.result = .ok Command.archiveFaultCode) ∨
    (Unforeseen platform path found cause ∧ finished.result = .error (.load cause))

theorem endsFor_endOfLoad {found : Files.Found} {cause : LoadError}
    (accounted : Accounted platform path found cause) (terminal : Terminal) (stderr : CodePoints) :
    EndsFor platform path found cause (Command.endOfLoad terminal stderr cause) := by
  unfold Command.endOfLoad
  rcases accounted with isFault | unforeseen
  · rw [if_pos isFault]
    exact .inl ⟨isFault, rfl⟩
  · rw [if_neg unforeseen.not_isArchiveFault]
    exact .inr ⟨unforeseen, rfl⟩

/-- Every load ends with a surface, with a fault of the archive or for an unforeseen defect, and no
load with two of them. Of the runs whose base or target cannot be loaded, those end with an exit code
that meet no unforeseen defect. -/
structure LoadsAccounted (libraries : Command.Libraries) (surroundings : Command.Surroundings) :
    Prop where
  load : ∀ path,
    (∃ surface, (load libraries.platform surroundings.lookUp path).result = .ok surface) ∨
      ∃ cause, (load libraries.platform surroundings.lookUp path).result = .error cause ∧
        Accounted libraries.platform path (surroundings.lookUp path) cause
  exclusive : ∀ path cause, Unforeseen libraries.platform path (surroundings.lookUp path) cause →
    ¬cause.IsArchiveFault
  base : ∀ logging choices stderr base target cause,
    (Archive.load libraries.platform surroundings.lookUp (.ofText base)).result = .error cause →
    EndsFor libraries.platform (.ofText base) (surroundings.lookUp (.ofText base)) cause
      (Command.loadAndReport libraries surroundings logging choices stderr base target)
  target : ∀ logging choices stderr base target surface cause,
    (Archive.load libraries.platform surroundings.lookUp (.ofText base)).result = .ok surface →
    (Archive.load libraries.platform surroundings.lookUp (.ofText target)).result = .error cause →
    EndsFor libraries.platform (.ofText target) (surroundings.lookUp (.ofText target)) cause
      (Command.loadAndReport libraries surroundings logging choices stderr base target)

/-- **No load ends in a way that is not accounted for.** -/
theorem loads_accounted (libraries : Command.Libraries) (surroundings : Command.Surroundings) :
    LoadsAccounted libraries surroundings := by
  constructor
  case load =>
    intro path
    cases loaded : (Archive.load libraries.platform surroundings.lookUp path).result with
    | ok surface => exact .inl ⟨surface, rfl⟩
    | error cause => exact .inr ⟨cause, rfl, accounted_of_load loaded⟩
  case exclusive => exact fun _ _ unforeseen => unforeseen.not_isArchiveFault
  case base =>
    intro logging choices stderr base target cause failed
    simp only [Command.loadAndReport, failed]
    exact endsFor_endOfLoad (accounted_of_load failed) _ _
  case target =>
    intro logging choices stderr base target surface cause loaded failed
    simp only [Command.loadAndReport, loaded, failed]
    exact endsFor_endOfLoad (accounted_of_load failed) _ _

/-- A directory with a class file whose class has no name. -/
def namelessClassSample : Files.Contents where
  members := [⟨["A.class"], .ok ⟨#[0xCA, 0xFE, 0xBA, 0xBE, 0, 0, 0, 0x34, 0, 3, 1, 0, 0, 7, 0, 1,
    0, 0x21, 0, 2, 0, 0, 0, 0, 0, 0, 0, 0, 0, 0]⟩⟩]

/-- Such a class is neither loaded nor reported as a fault of its archive. -/
theorem load_of_nameless_class :
    (load {} (fun _ => .directory namelessClassSample) ⟨"", ["a"]⟩).result =
        .error (.rejectedClass ⟨.classDecl, [⟨"name", .emptyText⟩]⟩) ∧
      ¬(LoadError.rejectedClass ⟨.classDecl, [⟨"name", .emptyText⟩]⟩).IsArchiveFault := by
  decide +kernel

end SurfaceDiff.Archive
