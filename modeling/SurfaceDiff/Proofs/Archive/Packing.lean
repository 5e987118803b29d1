import Mathlib.Data.List.Forall2
import SurfaceDiff.Proofs.Archive.Loading
import SurfaceDiff.Proofs.Comparison.Counters

/-!
Contract: an archive and the directory that it is extracted to are the same surface.

Owns: sets of files, what it means that such a set lies at a path as a directory or is packed there into
a zip archive, and the law that all of these load alike and that no comparison tells them apart.
Does not own: the reading of zip archives and of directories, which are taken to deliver the names and
bytes that are stored.

The two kinds of load go through the files in different orders, that of the archive's directory and
that of the sorted paths. What is common to them is that each entry of the API delivers the name and the
bytes of one of the files; the rest is said once, for entries that do so in any order.
-/

namespace SurfaceDiff

namespace Archive

/-- A file by the components of its relative path. -/
structure PackedFile where
  components : List String
  bytes : ByteArray

namespace PackedFile

/-- Each component is the name of a file or directory. -/
structure IsProper (file : PackedFile) : Prop where
  nonempty : file.components ≠ []
  names : ∀ component ∈ file.components, component ≠ "" ∧ '/' ∉ component.toList

/-- The relative path in one text. -/
def path (file : PackedFile) : String :=
  "/".intercalate file.components

/-- The file in a directory, where it can be read. -/
def member (file : PackedFile) : Files.Member :=
  ⟨file.components, .ok file.bytes⟩

end PackedFile

/-- Files with distinct paths below one place. -/
structure FileSet where
  files : List PackedFile
  proper : ∀ file ∈ files, file.IsProper
  distinct : (files.map PackedFile.components).Nodup

/-- The files that a load does not pass over. -/
def FileSet.apiFiles (set : FileSet) : List PackedFile :=
  set.files.filter fun file => BelongsToApi file.path

/-- The bytes of the file are those of this class. -/
def Parses (file : PackedFile) (decl : ClassDecl) : Prop :=
  ClassFile.parse file.bytes.data.toList = .ok decl

/-- The entry of a zip archive has the name and the bytes of the file, by whatever method these are
compressed. -/
structure Packs (platform : Platform) (content : ByteArray) (entry : Zip.Located) (file : PackedFile) :
    Prop where
  name : entry.record.name = file.path
  bytes : Zip.Entry.read platform content entry = .ok file.bytes

/-- The name of the entry ends with a slash. -/
def IsDirectory (entry : Zip.Located) : Prop :=
  entry.record.name.toList.getLast? = some '/'

instance (entry : Zip.Located) : Decidable (IsDirectory entry) := by
  unfold IsDirectory
  infer_instance

/-- The path leads to every directory and file in there, which lie neither too deep nor too far, and no
search is refused. -/
structure ReachesAll (platform : Platform) (path : Files.Path) (contents : Files.Contents) : Prop where
  directories : ∀ directory ∈ contents.directories, searchFault? platform path directory = none
  members : ∀ member ∈ contents.members, pathFault? path member.components = none

/-- What is at a path if the files lie below it, or are packed there, in any order and among any further
directories. -/
inductive FileSet.LiesAt (platform : Platform) (set : FileSet) (path : Files.Path) :
    Files.Found → Prop where
  | extracted {contents : Files.Contents}
    (members : contents.members.Perm (set.files.map PackedFile.member))
    (reached : ReachesAll platform path contents) :
    LiesAt platform set path (.directory contents)
  | packed {content : ByteArray} {entries : List Zip.Located} {files : List PackedFile}
    (opened : Zip.Directory.read content = .ok entries)
    (stored : List.Forall₂ (Packs platform content) (entries.filter fun entry => ¬IsDirectory entry)
      files)
    (members : files.Perm set.files) :
    LiesAt platform set path (.file (.ok content))

/-- Wherever the files lie, a load gives these packages, and no two loads differ for a comparison. -/
structure FileSet.LoadsAlike (platform : Platform) (set : FileSet) (packages : List Package) :
    Prop where
  loaded : ∀ lookUp path, set.LiesAt platform path (lookUp path) →
    (load platform lookUp path).result = .ok ⟨.ofString path.text, packages⟩
  compared : ∀ lookUp other first second left right,
    set.LiesAt platform first (lookUp first) → set.LiesAt platform second (other second) →
    (load platform lookUp first).result = .ok left →
    (load platform other second).result = .ok right →
    left.packages = right.packages ∧
      ∀ (σ : Type) (sink : Sink σ) (state : σ) (detectChanges : Bool),
        (Surface.compare ⟨sink, detectChanges⟩ state left right).state = state ∧
          ¬(Surface.compare ⟨sink, detectChanges⟩ state left right).summary.HasDifferences

/-! ## Names of files -/

/-- A text without slashes at the end of a path lies in its last part. -/
theorem isSuffix_of_isSuffix_slash {text front back : List Char} (plain : '/' ∉ text)
    (ends : text <:+ front ++ '/' :: back) : text <:+ back := by
  rcases List.suffix_or_suffix_of_suffix ends (List.suffix_append front ('/' :: back)) with
    inside | longer
  · rcases List.suffix_cons_iff.mp inside with whole | inside
    · exact absurd (whole ▸ List.mem_cons_self) plain
    · exact inside
  · exact absurd (longer.subset List.mem_cons_self) plain

theorem isSuffix_getLastD {text : List Char} (plain : '/' ∉ text) (components : List String)
    (ends : text <:+ ("/".intercalate components).toList) :
    text <:+ (components.getLastD "").toList := by
  induction components with
  | nil => exact ends
  | cons component rest inductionHypothesis =>
      cases rest with
      | nil =>
          rw [String.intercalate_singleton] at ends
          exact ends
      | cons next rest =>
          rw [String.intercalate_cons_cons, String.toList_append, String.toList_append,
            List.append_assoc] at ends
          exact inductionHypothesis (isSuffix_of_isSuffix_slash plain ends)

/-- The directory is searched for class files by their last component. -/
theorem holdsClass_of_belongsToApi {file : PackedFile} (belongs : BelongsToApi file.path) :
    holdsClass file.member = true :=
  List.isSuffixOf_iff_suffix.mpr (isSuffix_getLastD (by decide) file.components belongs.1)

theorem not_isDirectory_of_belongsToApi {entry : Zip.Located}
    (belongs : BelongsToApi entry.record.name) : ¬IsDirectory entry := by
  intro directory
  unfold IsDirectory at directory
  obtain ⟨front, name⟩ := belongs.1
  rw [← name, List.getLast?_append] at directory
  cases directory

/-! ## Entries that deliver files -/

/-- The entry has the name and the bytes of the file. -/
structure Entry.Delivers (entry : Entry) (file : PackedFile) : Prop where
  name : entry.name = file.path
  bytes : entry.read () = .ok file.bytes.data.toList

theorem Entry.Delivers.holds {entry : Entry} {file : PackedFile} {decl : ClassDecl}
    (delivers : entry.Delivers file) (parses : Parses file decl) : entry.Holds decl :=
  ⟨_, delivers.bytes, parses⟩

theorem holds_unique : Relator.RightUnique Entry.Holds := by
  rintro entry first second ⟨bytes, read, isFirst⟩ ⟨others, readAgain, isSecond⟩
  obtain rfl := Except.ok.inj (read.symm.trans readAgain)
  exact Except.ok.inj (isFirst.symm.trans isSecond)

theorem forall₂_holds_of_delivers {entries : List Entry} {files : List PackedFile}
    {classes : List ClassDecl} (delivers : List.Forall₂ Entry.Delivers entries files)
    (parses : List.Forall₂ Parses files classes) : List.Forall₂ Entry.Holds entries classes := by
  induction delivers generalizing classes with
  | nil =>
      cases parses
      exact .nil
  | cons here _ inductionHypothesis =>
      cases parses with
      | cons parsed later => exact .cons (here.holds parsed) (inductionHypothesis later)

theorem exists_related_of_mem {α β : Type} {Related : α → β → Prop} {first : List α}
    {second : List β} (related : List.Forall₂ Related first second) :
    ∀ item ∈ first, ∃ other ∈ second, Related item other := by
  induction related with
  | nil => exact fun _ member => absurd member List.not_mem_nil
  | cons here _ inductionHypothesis =>
      refine List.forall_mem_cons.mpr ⟨⟨_, List.mem_cons_self, here⟩, fun item member => ?_⟩
      obtain ⟨other, isOther, related⟩ := inductionHypothesis item member
      exact ⟨other, List.mem_cons_of_mem _ isOther, related⟩

/-- In whatever order entries deliver files, their load gives the classes of these files. -/
theorem result_of_delivers {path : String} {entries : List Entry} {files apiFiles : List PackedFile}
    {classes : List ClassDecl} (reachable : ∀ entry ∈ entries, entry.IsReachable)
    (delivers : List.Forall₂ Entry.Delivers (apiEntries entries) files)
    (order : files.Perm apiFiles) (parses : List.Forall₂ Parses apiFiles classes)
    (distinct : (classes.map ClassDecl.name).Nodup) :
    (loadEntries path entries).result = .ok ⟨.ofString path, groupByPackage classes⟩ := by
  obtain ⟨decls, parsed, rearranged⟩ := List.perm_comp_forall₂ order parses
  have holds := forall₂_holds_of_delivers delivers parsed
  have passes : ∀ entry ∈ entries, entry.Passes path := by
    refine (all_pass_iff path entries).mpr ⟨reachable, fun entry inApi => ?_⟩
    obtain ⟨decl, _, isHeld⟩ := exists_related_of_mem holds entry inApi
    exact ⟨decl, isHeld⟩
  have same : classesOf path entries = decls :=
    List.right_unique_forall₂' holds_unique (forall₂_holds passes) holds
  have packages : groupByPackage classes = groupByPackage decls :=
    groupByPackage_eq_of_perm distinct rearranged.symm
  rw [loadEntries_of_passes passes, same, packages]
  rfl

/-! ## The two ways to lie at a path -/

/-- The path yields these entries, and those of the API deliver its files. -/
structure FileSet.DeliveredBy (platform : Platform) (set : FileSet) (path : Files.Path)
    (found : Files.Found) (entries : List Entry) : Prop where
  yields : Yields platform path found entries
  delivers : ∃ files, List.Forall₂ Entry.Delivers (apiEntries entries) files ∧
    files.Perm set.apiFiles

/-- A choice that implies an earlier one makes it superfluous. -/
theorem filter_filter_of_imp {α : Type} {first second : α → Bool}
    (implied : ∀ item, second item → first item) (items : List α) :
    (items.filter first).filter second = items.filter second := by
  rw [List.filter_filter]
  refine List.filter_congr fun item _ => ?_
  cases chosen : second item with
  | true => rw [implied item chosen, Bool.and_self]
  | false => rw [Bool.false_and]

theorem apiEntries_map {α : Type} (toEntry : α → Entry) (items : List α) :
    apiEntries (items.map toEntry) =
      (items.filter fun item => BelongsToApi (toEntry item).name).map toEntry :=
  List.filter_map

section Places

variable {platform : Platform} {set : FileSet} {path : Files.Path}

/-- A file that can be read is delivered by the entry of a directory for it. -/
theorem delivers_memberEntry (file : PackedFile) : (memberEntry path file.member).Delivers file :=
  ⟨rfl, rfl⟩

/-- A directory delivers the files in the order of their paths. -/
theorem deliveredBy_of_extracted {contents : Files.Contents}
    (members : contents.members.Perm (set.files.map PackedFile.member))
    (reached : ReachesAll platform path contents) :
    ∃ entries, set.DeliveredBy platform path (.directory contents) entries := by
  let ordered := (contents.members.filter holdsClass).mergeSort fun first second =>
    (compare (sortKey first) (sortKey second)).isLE
  have searched : ordered.Perm (contents.members.filter holdsClass) := List.mergeSort_perm _ _
  have reachedDirectories : contents.directories.findSome? (searchFault? platform path) = none :=
    List.findSome?_eq_none_iff.mpr reached.directories
  -- Up to their order, the members that are read are those of the files that hold a class.
  have chosen := searched.trans (members.filter holdsClass)
  rw [List.filter_map] at chosen
  obtain ⟨files, isOrdered, rearranged⟩ :=
    (congrFun₂ (List.eq_map_comp_perm PackedFile.member) _ _).mpr chosen
  refine ⟨ordered.map (memberEntry path), ⟨?opened, ?reachable⟩,
    files.filter fun file => BelongsToApi file.path, ?delivers, ?order⟩
  case opened =>
    show directoryEntries platform path contents = _
    unfold directoryEntries
    rw [reachedDirectories]
  case reachable =>
    intro entry isEntry
    obtain ⟨member, isMember, rfl⟩ := List.mem_map.mp isEntry
    have isInside := (List.mem_filter.mp (searched.subset isMember)).1
    obtain ⟨file, _, rfl⟩ := List.mem_map.mp (members.subset isInside)
    show memberFault? path file.member = none
    simp only [memberFault?, reached.members _ isInside]
    rfl
  case delivers =>
    rw [isOrdered, List.map_map, apiEntries_map, List.forall₂_map_left_iff]
    exact List.forall₂_same.mpr fun file _ => delivers_memberEntry file
  case order =>
    have searchedApi : (files.filter fun file => BelongsToApi file.path).Perm
        ((set.files.filter fun file => holdsClass file.member).filter fun file =>
          BelongsToApi file.path) := rearranged.filter _
    rw [filter_filter_of_imp fun file belongs =>
      holdsClass_of_belongsToApi (of_decide_eq_true belongs)] at searchedApi
    exact searchedApi

theorem Packs.delivers {content : ByteArray} {entry : Zip.Located} {file : PackedFile}
    (packs : Packs platform content entry file) :
    (zipEntry platform path.text content entry).Delivers file where
  name := packs.name
  bytes := by
    unfold zipEntry
    simp only [packs.bytes]

/-- A zip archive delivers them in the order of its own directory. -/
theorem deliveredBy_of_packed {content : ByteArray} {located : List Zip.Located}
    {files : List PackedFile} (tells : platform.TellsDirectories)
    (opened : Zip.Directory.read content = .ok located)
    (stored : List.Forall₂ (Packs platform content) (located.filter fun entry => ¬IsDirectory entry)
      files)
    (members : files.Perm set.files) :
    ∃ entries, set.DeliveredBy platform path (.file (.ok content)) entries := by
  refine ⟨_, yields_of_zip tells opened path, files.filter fun file => BelongsToApi file.path,
    ?delivers, members.filter _⟩
  have packed : List.Forall₂ (Packs platform content)
      ((located.filter fun entry => ¬IsDirectory entry).filter fun entry =>
        BelongsToApi entry.record.name)
      (files.filter fun file => BelongsToApi file.path) :=
    List.rel_filter (fun entry file packs => by simp [packs.name]) stored
  rw [filter_filter_of_imp fun entry belongs =>
    decide_eq_true (not_isDirectory_of_belongsToApi (of_decide_eq_true belongs))] at packed
  rw [apiEntries_map, List.forall₂_map_left_iff]
  exact packed.imp fun _ _ packs => packs.delivers

theorem FileSet.LiesAt.deliveredBy {found : Files.Found} (tells : platform.TellsDirectories)
    (lies : set.LiesAt platform path found) :
    ∃ entries, set.DeliveredBy platform path found entries := by
  cases lies with
  | extracted members reached => exact deliveredBy_of_extracted members reached
  | packed opened stored members => exact deliveredBy_of_packed tells opened stored members

end Places

/-- **A jar and its extracted directory are the same surface.** Wherever files lie whose classes have
distinct names, a load gives the same packages, and a comparison of two such loads finds nothing. -/
theorem packed_and_extracted_load_alike (platform : Platform) (tells : platform.TellsDirectories)
    (set : FileSet) {classes : List ClassDecl} (parses : List.Forall₂ Parses set.apiFiles classes)
    (distinct : (classes.map ClassDecl.name).Nodup) :
    set.LoadsAlike platform (groupByPackage classes) := by
  have loaded : ∀ lookUp path, set.LiesAt platform path (lookUp path) →
      (load platform lookUp path).result = .ok ⟨.ofString path.text, groupByPackage classes⟩ := by
    intro lookUp path lies
    obtain ⟨entries, yields, files, delivers, order⟩ := lies.deliveredBy tells
    unfold load
    rw [yields.opened]
    exact result_of_delivers yields.reachable delivers order parses distinct
  refine ⟨loaded, ?_⟩
  intro lookUp other first second left right isFirst isSecond loadedFirst loadedSecond
  obtain rfl := Except.ok.inj (loadedFirst.symm.trans (loaded lookUp first isFirst))
  obtain rfl := Except.ok.inj (loadedSecond.symm.trans (loaded other second isSecond))
  exact ⟨rfl, fun σ sink state detectChanges =>
    Comparison.silent_of_packages_eq ⟨sink, detectChanges⟩ state rfl⟩

/-! ## A jar with two classes

Its directory lists a further directory, and the files from the last to the first. -/

section Sample

open Zip

def innerFile : StoredFile :=
  ⟨"p/Inner.class", classBytes "p/Inner", [0x01, 0xB5, 0xF7, 0xF6], 32⟩

def outerFile : StoredFile :=
  ⟨"Outer.class", classBytes "Outer", [0xE9, 0xEB, 0xB8, 0x17], 112⟩

def sampleStored : List StoredFile :=
  [outerFile, innerFile, ⟨"p/", [], [0, 0, 0, 0], 0⟩]

def jarSample : ByteArray := storedArchive sampleStored

def outerLocated : Located := ⟨outerFile.record, 112, 188⟩

def innerLocated : Located := ⟨innerFile.record, 32, 112⟩

def sampleLocated : List Located :=
  (sampleStored.zip [188, 112, 32]).map fun (file, stop) => ⟨file.record, file.offset, stop⟩

theorem read_jarSample : Directory.read jarSample = .ok sampleLocated := by
  unfold jarSample
  rw [read_storedArchive (by decide +kernel) (by decide +kernel)]
  -- The records come from the last place to the first, so neither sort moves them.
  unfold Directory.locate
  simp (disch := decide +kernel) only [List.mergeSort_of_pairwise]
  decide +kernel

def sampleFiles : List PackedFile :=
  [⟨["p", "Inner.class"], ⟨innerFile.data.toArray⟩⟩, ⟨["Outer.class"], ⟨outerFile.data.toArray⟩⟩]

def sampleSet : FileSet where
  files := sampleFiles
  proper := by
    intro file isFile
    rcases List.mem_pair.mp isFile with rfl | rfl
    · exact ⟨by decide, by decide⟩
    · exact ⟨by decide, by decide⟩
  distinct := by decide

def sampleClasses : List ClassDecl :=
  [{ name := "p/Inner", accessFlags := 0x21, name_ne_empty := by decide },
    { name := "Outer", accessFlags := 0x21, name_ne_empty := by decide }]

theorem packs_outer : Packs {} jarSample outerLocated ⟨["Outer.class"], ⟨outerFile.data.toArray⟩⟩ where
  name := rfl
  bytes := read_storedFile {} (by decide +kernel) [] (sampleStored.drop 1) rfl rfl (by decide)

theorem packs_inner : Packs {} jarSample innerLocated
    ⟨["p", "Inner.class"], ⟨innerFile.data.toArray⟩⟩ where
  name := rfl
  bytes := read_storedFile {} (by decide +kernel) (sampleStored.take 1) (sampleStored.drop 2) rfl rfl
    (by decide)

theorem sample_liesAt_jar : sampleSet.LiesAt {} ⟨"", ["lib.jar"]⟩ (.file (.ok jarSample)) :=
  .packed read_jarSample (.cons packs_outer (.cons packs_inner .nil)) (.swap _ _ _)

theorem sample_liesAt_directory : sampleSet.LiesAt {} ⟨"", ["lib"]⟩
    (.directory ⟨[⟨["p"], none⟩], sampleFiles.map PackedFile.member⟩) :=
  .extracted .rfl ⟨by decide +kernel, by decide +kernel⟩

theorem sample_parses : List.Forall₂ Parses sampleSet.apiFiles sampleClasses := by
  have all : sampleSet.apiFiles = sampleFiles := by
    refine List.filter_eq_self.mpr fun file isFile => ?_
    rcases List.mem_pair.mp isFile with rfl | rfl
    · decide +kernel
    · decide +kernel
  rw [all]
  refine .cons ?_ (.cons ?_ .nil)
  · show ClassFile.parse (classBytes "p/Inner") = _
    decide +kernel
  · show ClassFile.parse (classBytes "Outer") = _
    decide +kernel

theorem packed_and_extracted_load_alike_sample :
    Platform.TellsDirectories {} ∧
      List.Forall₂ Parses sampleSet.apiFiles sampleClasses ∧
      (sampleClasses.map ClassDecl.name).Nodup ∧
      sampleSet.LiesAt {} ⟨"", ["lib.jar"]⟩ (.file (.ok jarSample)) ∧
      sampleSet.LiesAt {} ⟨"", ["lib"]⟩ (.directory ⟨[⟨["p"], none⟩], sampleFiles.map PackedFile.member⟩) ∧
      sampleSet.LoadsAlike {} (groupByPackage sampleClasses) :=
  have tells : Platform.TellsDirectories {} := fun _ => rfl
  have distinct : (sampleClasses.map ClassDecl.name).Nodup := by decide
  ⟨tells, sample_parses, distinct, sample_liesAt_jar, sample_liesAt_directory,
    packed_and_extracted_load_alike {} tells sampleSet sample_parses distinct⟩

end Sample

end Archive

end SurfaceDiff
