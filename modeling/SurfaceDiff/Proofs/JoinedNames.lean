import SurfaceDiff.Proofs.Archive.Loading
import SurfaceDiff.Proofs.ClassFile.Acceptance
import SurfaceDiff.Proofs.Report.Streams

/-!
Contract: surfaces in whose names no two surrogates make a pair.

Owns: `HasJoinedNames`, that all loaded surfaces have it, and that then no level and no item of a
comparison holds a pair either.
Does not own: which names there are.

A class file is read by joining pairs. All texts without surrogates have the property too, so it only
leaves out surfaces that were built by hand from halves of characters.
-/

namespace SurfaceDiff

open Text

/-- Pairs of surrogates are joined in the name and the descriptor. -/
structure Method.HasJoinedNames (method : Method) : Prop where
  name : CodePoints.Unpaired method.name
  descriptor : CodePoints.Unpaired method.descriptor

def ClassDecl.HasJoinedNames (decl : ClassDecl) : Prop :=
  ∀ method ∈ decl.methods, method.HasJoinedNames

structure Package.HasJoinedNames (package : Package) : Prop where
  name : CodePoints.Unpaired package.name
  types : ∀ decl ∈ package.types, decl.HasJoinedNames

def Surface.HasJoinedNames (surface : Surface) : Prop :=
  ∀ package ∈ surface.packages, package.HasJoinedNames

/-! ## Names in a comparison -/

theorem Method.HasJoinedNames.unpaired_key {method : Method} (joined : method.HasJoinedNames) :
    CodePoints.Unpaired method.key := by
  have free : CodePoints.SurrogateFree keySeparator := CodePoints.surrogateFree_ofString " :: "
  exact CodePoints.Unpaired.append joined.name joined.descriptor free (by decide)

theorem unpaired_ofString (text : String) : CodePoints.Unpaired (.ofString text) :=
  (CodePoints.surrogateFree_ofString text).unpaired

theorem Surface.HasJoinedNames.unpaired_of_package? {surface : Surface}
    (joined : surface.HasJoinedNames) {name : CodePoints}
    (found : (surface.package? name).isSome = true) : CodePoints.Unpaired name := by
  obtain ⟨package, isPackage⟩ := Option.isSome_iff_exists.mp found
  rw [← Package.key_of_package? isPackage]
  exact (joined package (List.mem_of_find?_eq_some isPackage)).name

theorem Package.unpaired_of_type? {package : Package} {name : CodePoints}
    (found : (package.type? name).isSome = true) : CodePoints.Unpaired name := by
  obtain ⟨decl, isType⟩ := Option.isSome_iff_exists.mp found
  rw [← ClassDecl.key_of_type? isType]
  exact unpaired_ofString decl.simpleName

theorem Surface.HasJoinedNames.of_type? {surface : Surface} (joined : surface.HasJoinedNames)
    {package name : CodePoints} {decl : ClassDecl}
    (found : surface.type? package name = some decl) : decl.HasJoinedNames := by
  obtain ⟨holder, isHolder, isType⟩ := (surface.type?_eq_some_iff package name decl).mp found
  exact (joined holder (List.mem_of_find?_eq_some isHolder)).types decl
    (List.mem_of_find?_eq_some isType)

theorem ClassDecl.HasJoinedNames.unpaired_of_method? {decl : ClassDecl}
    (joined : decl.HasJoinedNames) {key : CodePoints} (found : (decl.method? key).isSome = true) :
    CodePoints.Unpaired key := by
  obtain ⟨method, isMethod⟩ := Option.isSome_iff_exists.mp found
  rw [← ClassDecl.key_of_method? isMethod]
  exact (joined method (List.mem_of_find?_eq_some isMethod)).unpaired_key

namespace Comparison

variable {detectChanges : Bool} {left right : Surface}

theorem unpaired_of_presence {α : Type} {first second : Option α} {outcome : Outcome}
    {key : CodePoints} (differs : PresenceDiffers first second outcome)
    (isFirst : first.isSome = true → CodePoints.Unpaired key)
    (isSecond : second.isSome = true → CodePoints.Unpaired key) : CodePoints.Unpaired key := by
  cases outcome with
  | removed => exact isFirst differs.1
  | added => exact isSecond differs.2
  | changed => exact differs.elim

/-- What differs is the key of something that one of the sides holds. -/
theorem unpaired_of_differs (leftJoined : left.HasJoinedNames) (rightJoined : right.HasJoinedNames)
    {item : Item} (differs : Differs detectChanges left right item) :
    CodePoints.Unpaired item.key := by
  obtain ⟨place, outcome, key⟩ := item
  cases place with
  | packages =>
      exact unpaired_of_presence differs leftJoined.unpaired_of_package?
        rightJoined.unpaired_of_package?
  | types package =>
      obtain ⟨first, second, _, _, presence⟩ := differs
      exact unpaired_of_presence presence Package.unpaired_of_type? Package.unpaired_of_type?
  | methods package name =>
      obtain ⟨first, second, isFirst, isSecond, found⟩ := differs
      have inFirst := leftJoined.of_type? isFirst
      have inSecond := rightJoined.of_type? isSecond
      rcases found with presence | ⟨_, _, _, before, _, isBefore, _⟩
      · exact unpaired_of_presence presence inFirst.unpaired_of_method? inSecond.unpaired_of_method?
      · exact inFirst.unpaired_of_method? (Option.isSome_of_eq_some isBefore)

theorem level_of_mem_entry {level : CodePoints} {outcome : Outcome} {items : List CodePoints}
    {entry : Entry} (isEntry : entry ∈ Reconciliation.entry? level outcome items) :
    entry.level = level := by
  unfold Reconciliation.entry? at isEntry
  split at isEntry
  · exact absurd isEntry List.not_mem_nil
  · rw [List.mem_singleton.mp isEntry]

theorem level_of_mem_levelFindings {α : Type} {place : Place} {level : CodePoints}
    {key : α → CodePoints} {first second : List α} {finding : Finding}
    (isFinding : finding ∈ levelFindings place level key first second) :
    finding.entry.level = level := by
  obtain ⟨entry, isEntry, rfl⟩ := List.mem_map.mp isFinding
  rcases List.mem_append.mp isEntry with isRemoval | isAddition
  · exact level_of_mem_entry isRemoval
  · exact level_of_mem_entry isAddition

/-- The level of a class is named by a string. -/
theorem unpaired_level_of_type {package : CodePoints} {types : ClassDecl × ClassDecl}
    {finding : Finding} (isFinding : finding ∈ typeFindings detectChanges package types) :
    CodePoints.Unpaired finding.entry.level := by
  rcases List.mem_append.mp isFinding with isPresence | isBody
  · rw [level_of_mem_levelFindings isPresence]
    exact unpaired_ofString _
  · unfold bodyFindings at isBody
    split at isBody
    · obtain ⟨entry, isEntry, rfl⟩ := List.mem_map.mp isBody
      show CodePoints.Unpaired entry.level
      rw [level_of_mem_entry isEntry]
      exact unpaired_ofString _
    · exact absurd isBody List.not_mem_nil

theorem unpaired_level_of_package {packages : Package × Package} (joined : packages.1.HasJoinedNames)
    {finding : Finding} (isFinding : finding ∈ packageFindings detectChanges packages) :
    CodePoints.Unpaired finding.entry.level := by
  have free : CodePoints.SurrogateFree (.ofString "classes in package ") :=
    CodePoints.surrogateFree_ofString _
  rcases List.mem_append.mp isFinding with isPresence | inType
  · rw [level_of_mem_levelFindings isPresence]
    exact CodePoints.Unpaired.append List.IsChain.nil joined.name free (by decide)
  · obtain ⟨types, _, isFinding⟩ := List.mem_flatMap.mp inType
    exact unpaired_level_of_type isFinding

theorem unpaired_level (leftJoined : left.HasJoinedNames) {finding : Finding}
    (isFinding : finding ∈ findings detectChanges left right) :
    CodePoints.Unpaired finding.entry.level := by
  rcases List.mem_append.mp isFinding with isPresence | inPackage
  · rw [level_of_mem_levelFindings isPresence]
    exact unpaired_ofString _
  · obtain ⟨packages, isPair, isFinding⟩ := List.mem_flatMap.mp inPackage
    have isFirst := ((mem_common Package.key left.packages right.packages _ _).mp isPair).1
    exact unpaired_level_of_package (leftJoined _ (List.mem_of_find?_eq_some isFirst)) isFinding

/-- Between surfaces with joined names, no entry changes when its texts are joined. -/
theorem joined_collect (leftJoined : left.HasJoinedNames) (rightJoined : right.HasJoinedNames) :
    (collect detectChanges left right).state.entries.toList.map Entry.joined =
      (collect detectChanges left right).state.entries.toList := by
  rw [entries_collect, List.map_map]
  apply List.map_congr_left
  intro finding isFinding
  refine Entry.joined_of_unpaired (unpaired_level leftJoined isFinding) fun key isKey => ?_
  have isItem : ⟨finding.place, finding.entry.outcome, key⟩ ∈
      handedOver (findings detectChanges left right) :=
    List.mem_flatMap.mpr ⟨finding, isFinding, List.mem_map.mpr ⟨key, isKey, rfl⟩⟩
  exact unpaired_of_differs leftJoined rightJoined ((mem_handedOver _ _ _ _).mp isItem)

end Comparison

/-! ## Names in a class file -/

/-- What follows from a relation holds of all items on its right side. -/
theorem forall_of_forall₂ {α β : Type} {Related : α → β → Prop} {Holds : β → Prop}
    {items : List α} {others : List β} (related : List.Forall₂ Related items others)
    (implies : ∀ item other, Related item other → Holds other) : ∀ other ∈ others, Holds other := by
  induction related with
  | nil => exact nofun
  | cons here _ inductionHypothesis =>
      exact List.forall_mem_cons.mpr ⟨implies _ _ here, inductionHypothesis⟩

theorem ClassFile.Layout.unpaired_decoded (content : List UInt8) :
    CodePoints.Unpaired (decoded content) := by
  unfold decoded ModifiedUtf8.decode
  cases ModifiedUtf8.decodeUnits 0 #[] content with
  | error => exact List.IsChain.nil
  | ok units => exact CodePoints.unpaired_joinPairs units.toList

/-- The texts of a pool are read by joining pairs. -/
theorem ClassFile.Layout.unpaired_of_textAt {constants : List (Constant (List UInt8))} {index : Nat}
    {text : CodePoints} (isText : TextAt (constants.map (Constant.map decoded)) index text) :
    CodePoints.Unpaired text := by
  obtain ⟨before, after, split, _⟩ := isText
  have member : Constant.text text ∈ constants.map (Constant.map decoded) := by
    simp [split]
  obtain ⟨constant, _, isText⟩ := List.mem_map.mp member
  cases constant with
  | text content =>
      obtain rfl := Constant.text.inj isText
      exact unpaired_decoded content
  | classRef => cases isText
  | other => cases isText

theorem ClassFile.hasJoinedNames_of_parse {data : List UInt8} {decl : ClassDecl}
    (parsed : parse data = .ok decl) : decl.HasJoinedNames := by
  obtain ⟨file, _, _, _, denoted⟩ := (parse_eq_ok_iff data decl).mp parsed
  refine forall_of_forall₂ denoted.methods fun member method isDenoted => ?_
  exact ⟨Layout.unpaired_of_textAt isDenoted.name, Layout.unpaired_of_textAt isDenoted.descriptor⟩

/-! ## Names in an archive -/

theorem hasJoinedNames_of_mem_groupByPackage {classes : List ClassDecl}
    (joined : ∀ decl ∈ classes, decl.HasJoinedNames) {package : Package}
    (isPackage : package ∈ groupByPackage classes) : package.HasJoinedNames where
  name := by
    obtain ⟨name, _, rfl⟩ := List.mem_map.mp isPackage
    exact unpaired_ofString name
  types := by
    intro decl isType
    refine joined decl ((types_groupByPackage_perm classes).mem_iff.mp ?_)
    exact List.mem_flatMap.mpr ⟨package, isPackage, isType⟩

theorem Archive.hasJoinedNames_of_load {platform : Platform} {lookUp : Files.Path → Files.Found}
    {path : Files.Path} {surface : Surface} (loaded : (load platform lookUp path).result = .ok surface) :
    surface.HasJoinedNames := by
  unfold load at loaded
  cases found : entriesOf platform path (lookUp path) with
  | error cause =>
      rw [found] at loaded
      cases loaded
  | ok entries =>
      rw [found] at loaded
      obtain ⟨classes, holds, rfl, _⟩ := exists_classes_of_ok loaded
      have joined : ∀ decl ∈ classes, decl.HasJoinedNames := by
        refine forall_of_forall₂ holds fun entry decl isHeld => ?_
        obtain ⟨bytes, _, parsed⟩ := isHeld
        exact ClassFile.hasJoinedNames_of_parse parsed
      exact fun package isPackage => hasJoinedNames_of_mem_groupByPackage joined isPackage

end SurfaceDiff
