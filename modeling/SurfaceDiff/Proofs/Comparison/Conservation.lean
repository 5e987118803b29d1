import SurfaceDiff.Proofs.ClassNames
import SurfaceDiff.Proofs.Comparison.Session
import SurfaceDiff.Proofs.Grouping
import SurfaceDiff.Proofs.Repetition

/-!
Contract: what becomes of each class and each method of the left side.

Owns: the items removed at one level, the classes that stand behind another one of their simple name,
and the law that a class or method is compared, reported as removed, lies in something that is reported
as removed, or is a repetition.
Does not own: the right side, of which nothing is counted here.

Every level is reconciled by itself. The law of one reconciliation is summed over the packages and the
types that a comparison goes into; the packages it does not go into are those it reports as removed.
-/

namespace SurfaceDiff

open Text

/-- The three levels of a surface. -/
inductive Level where
  | packages
  | types
  | methods
deriving DecidableEq

def Place.level : Place → Level
  | .packages => .packages
  | .types _ => .types
  | .methods _ _ => .methods

namespace Comparison

variable {α β : Type}

/-- The items of one level that are reported as removed. -/
def removedItems (level : Level) (found : List Finding) : List Item :=
  (handedOver found).filter fun item => item.place.level = level ∧ item.outcome = .removed

/-- The types of the packages that are reported as removed. -/
def typesOfRemoved (left : Surface) (found : List Finding) : List ClassDecl :=
  (left.packages.filter fun package =>
    ((removedItems .packages found).map Item.key).contains package.key).flatMap Package.types

/-- The types of common packages that stand behind another one of their simple name. -/
def repeatedTypes (left right : Surface) : List ClassDecl :=
  (left.packages.filter fun package => (right.package? package.key).isSome).flatMap fun package =>
    repetitions ClassDecl.key package.types

/-- The methods taking part, of all types that are compared. -/
def methodsOfCommon (left right : Surface) : List Method :=
  (visitedTypes left right).flatMap fun types => comparedMethods types.1

/-- Those of them that stand behind another one of their key. -/
def repeatedMethods (left right : Surface) : List Method :=
  (visitedTypes left right).flatMap fun types => repetitions Method.key (comparedMethods types.1)

/-- Where the classes and methods of the left side are after a comparison. -/
structure Conserved (classes : List ClassDecl) (left right : Surface) (run : Run Collected)
    (found : List Finding) : Prop where
  entries : run.state.entries.toList = found.map Finding.entry
  types : (classes.length : Int) = run.summary.typesCompared + (removedItems .types found).length +
    (typesOfRemoved left found).length + (repeatedTypes left right).length
  methods : ((methodsOfCommon left right).length : Int) = run.summary.methodsCompared +
    (removedItems .methods found).length + (repeatedMethods left right).length
  noRepetition : (classes.map ClassDecl.name).Nodup →
    (∀ decl ∈ classes, decl.HasSlashedName) → repeatedTypes left right = []

/-! ## Items that are reported as removed -/

theorem removedItems_append (level : Level) (first second : List Finding) :
    removedItems level (first ++ second) = removedItems level first ++ removedItems level second := by
  unfold removedItems
  rw [handedOver_append, List.filter_append]

theorem removedItems_flatMap (level : Level) (items : List α) (found : α → List Finding) :
    removedItems level (items.flatMap found) =
      items.flatMap fun item => removedItems level (found item) := by
  unfold removedItems
  rw [handedOver_flatMap, List.filter_flatMap]

theorem removedItems_level (wanted : Level) (place : Place) (level : CodePoints) (key : α → CodePoints)
    (left right : List α) :
    removedItems wanted (levelFindings place level key left right) =
      if place.level = wanted then
        (reconcile key left right).result.removed.map (Item.mk place .removed)
      else [] := by
  unfold removedItems
  rw [handedOver_level, List.filter_append, List.filter_map, List.filter_map]
  by_cases same : place.level = wanted
  · simp [same, Function.comp_def]
  · simp [same, Function.comp_def]

theorem removedItems_body (wanted : Level) (detectChanges : Bool) (place : Place) (left : ClassDecl)
    (pairs : List (Method × Method)) :
    removedItems wanted (bodyFindings detectChanges place left pairs) = [] := by
  unfold removedItems
  rw [handedOver_body]
  split
  case isTrue => simp [List.filter_map, Function.comp_def]
  case isFalse => rfl

/-- A type reports nothing but methods. -/
theorem removedItems_type (wanted : Level) (detectChanges : Bool) (package : CodePoints)
    (types : ClassDecl × ClassDecl) :
    removedItems wanted (typeFindings detectChanges package types) =
      if wanted = .methods then
        (reconcile Method.key (comparedMethods types.1) (comparedMethods types.2)).result.removed.map
          (Item.mk (.methods package types.1.key) .removed)
      else [] := by
  unfold typeFindings
  rw [removedItems_append, removedItems_level, removedItems_body, List.append_nil]
  simp only [Place.level, eq_comm]

theorem removedItems_package (wanted : Level) (detectChanges : Bool) (packages : Package × Package) :
    removedItems wanted (packageFindings detectChanges packages) =
      (if wanted = .types then
        (reconcile ClassDecl.key packages.1.types packages.2.types).result.removed.map
          (Item.mk (.types packages.1.key) .removed)
      else []) ++
        (matchedTypes packages).flatMap fun types =>
          removedItems wanted (typeFindings detectChanges packages.1.key types) := by
  unfold packageFindings
  rw [removedItems_append, removedItems_level, removedItems_flatMap]
  simp only [Place.level, eq_comm]
  rfl

theorem removedItems_findings (wanted : Level) (detectChanges : Bool) (left right : Surface) :
    removedItems wanted (findings detectChanges left right) =
      (if wanted = .packages then
        (reconcile Package.key left.packages right.packages).result.removed.map
          (Item.mk .packages .removed)
      else []) ++
        (matchedPackages left right).flatMap fun packages =>
          removedItems wanted (packageFindings detectChanges packages) := by
  unfold findings
  rw [removedItems_append, removedItems_level, removedItems_flatMap]
  simp only [Place.level, eq_comm]
  rfl

theorem removedPackages_findings (detectChanges : Bool) (left right : Surface) :
    (removedItems .packages (findings detectChanges left right)).map Item.key =
      (reconcile Package.key left.packages right.packages).result.removed := by
  simp [removedItems_findings, removedItems_package, removedItems_type, Function.comp_def]

theorem removedTypes_findings (detectChanges : Bool) (left right : Surface) :
    (removedItems .types (findings detectChanges left right)).length =
      ((matchedPackages left right).flatMap fun packages =>
        (reconcile ClassDecl.key packages.1.types packages.2.types).result.removed).length := by
  simp [removedItems_findings, removedItems_package, removedItems_type, List.length_flatMap]

theorem removedMethods_findings (detectChanges : Bool) (left right : Surface) :
    (removedItems .methods (findings detectChanges left right)).length =
      ((visitedTypes left right).flatMap fun types =>
        (reconcile Method.key (comparedMethods types.1)
          (comparedMethods types.2)).result.removed).length := by
  unfold visitedTypes
  rw [List.flatMap_assoc]
  simp [removedItems_findings, removedItems_package, removedItems_type, List.length_flatMap]

/-! ## The law of one level, summed -/

/-- A law about the lengths of three parts holds of all items together. -/
theorem length_flatMap_parts {whole first second third : Type} {items : List α}
    {all : α → List whole} {ones : α → List first} {twos : α → List second} {threes : α → List third}
    (parts : ∀ item ∈ items,
      (all item).length = (ones item).length + (twos item).length + (threes item).length) :
    (items.flatMap all).length = (items.flatMap ones).length + (items.flatMap twos).length +
      (items.flatMap threes).length := by
  induction items with
  | nil => rfl
  | cons item rest inductionHypothesis =>
      have here := parts item List.mem_cons_self
      have later := inductionHypothesis fun item member => parts item (List.mem_cons_of_mem _ member)
      simp only [List.flatMap_cons, List.length_append]
      omega

theorem length_methodsOfCommon (detectChanges : Bool) (left right : Surface) :
    (methodsOfCommon left right).length =
      (removedItems .methods (findings detectChanges left right)).length +
        (visitedMethods left right).length + (repeatedMethods left right).length := by
  rw [removedMethods_findings]
  exact length_flatMap_parts fun types _ =>
    length_eq_removed_add_common_add_repetitions Method.key (comparedMethods types.1) _

theorem length_typesOfCommon (detectChanges : Bool) (left right : Surface) :
    ((matchedPackages left right).flatMap fun packages => packages.1.types).length =
      (removedItems .types (findings detectChanges left right)).length +
        (visitedTypes left right).length +
        ((matchedPackages left right).flatMap fun packages =>
          repetitions ClassDecl.key packages.1.types).length := by
  rw [removedTypes_findings]
  exact length_flatMap_parts fun packages _ =>
    length_eq_removed_add_common_add_repetitions ClassDecl.key packages.1.types _

/-! ## Packages with distinct names -/

section DistinctPackages

variable {left : Surface} (distinct : (left.packages.map Package.key).Nodup)

include distinct

theorem package?_of_mem {package : Package} (member : package ∈ left.packages) :
    left.package? package.key = some package :=
  firstWithKey_of_mem distinct member

/-- The pairs of packages that a comparison goes into have the common packages on their left. -/
theorem matchedPackages_perm (right : Surface) :
    ((matchedPackages left right).map Prod.fst).Perm
      (left.packages.filter fun package => (right.package? package.key).isSome) := by
  have keys := (common_increasing Package.key left.packages right.packages).nodup
  have nodup : ((matchedPackages left right).map Prod.fst).Nodup :=
    List.Nodup.of_map Package.key (by rwa [List.map_map])
  refine (List.perm_ext_iff_of_nodup nodup (distinct.of_map.filter _)).mpr fun package => ?_
  rw [List.mem_map, List.mem_filter]
  constructor
  · rintro ⟨⟨first, second⟩, common, rfl⟩
    obtain ⟨isFirst, isSecond⟩ := (mem_commonPackages left right first second).mp common
    exact ⟨List.mem_of_find?_eq_some isFirst, by rw [isSecond]; rfl⟩
  · rintro ⟨member, counterpart⟩
    obtain ⟨other, isOther⟩ := Option.isSome_iff_exists.mp counterpart
    exact ⟨(package, other), (mem_commonPackages left right package other).mpr
      ⟨package?_of_mem distinct member, isOther⟩, rfl⟩

/-- The packages that are reported as removed are those without a counterpart. -/
theorem typesOfRemoved_eq (detectChanges : Bool) (right : Surface) :
    typesOfRemoved left (findings detectChanges left right) =
      (left.packages.filter fun package => !(right.package? package.key).isSome).flatMap
        Package.types := by
  unfold typesOfRemoved
  rw [removedPackages_findings]
  refine congrArg (List.flatMap Package.types) (List.filter_congr fun package member => ?_)
  have isFirst : firstWithKey Package.key left.packages package.key = some package :=
    package?_of_mem distinct member
  rw [Bool.eq_iff_iff, List.contains_iff_mem, mem_removed, isFirst]
  show _ ∧ right.package? package.key = none ↔ _
  cases right.package? package.key with
  | none => simp
  | some other => simp

/-- Each type of the left side is removed by itself or with its package, compared, or repeated. -/
theorem length_types (detectChanges : Bool) (right : Surface) :
    left.typeCount = (visitedTypes left right).length +
      (removedItems .types (findings detectChanges left right)).length +
      (typesOfRemoved left (findings detectChanges left right)).length +
      (repeatedTypes left right).length := by
  have perm := matchedPackages_perm distinct right
  have common := (perm.flatMap_right Package.types).length_eq
  have repeated :=
    (perm.flatMap_right fun package => repetitions ClassDecl.key package.types).length_eq
  rw [List.flatMap_map] at common repeated
  have split := ((List.filter_append_perm (fun package => (right.package? package.key).isSome)
    left.packages).flatMap_right Package.types).length_eq
  rw [List.flatMap_append, List.length_append] at split
  have parts := length_typesOfCommon detectChanges left right
  rw [typesOfRemoved_eq distinct]
  unfold Surface.typeCount repeatedTypes
  omega

end DistinctPackages

/-! ## Classes in packages -/

theorem nodup_keys_groupByPackage (classes : List ClassDecl) :
    ((groupByPackage classes).map Package.key).Nodup := by
  rw [map_key_groupByPackage]
  exact (nodup_packageNames classes).map fun _ _ => CodePoints.ofString_inj

/-- With distinct names that hold no dots and do not start with a slash, the simple names in a package
are distinct. -/
theorem nodup_keys_of_mem_groupByPackage {classes : List ClassDecl}
    (distinct : (classes.map ClassDecl.name).Nodup)
    (slashed : ∀ decl ∈ classes, decl.HasSlashedName) {package : Package}
    (member : package ∈ groupByPackage classes) : (package.types.map ClassDecl.key).Nodup := by
  have holds := types_perm_of_mem member
  refine ((holds.map ClassDecl.key).nodup_iff).mpr ?_
  refine List.Nodup.map_on (fun first isFirst second isSecond sameKey => ?_)
    (distinct.of_map.filter _)
  rw [List.mem_filter, decide_eq_true_eq] at isFirst isSecond
  have samePackage : first.packageName = second.packageName :=
    CodePoints.ofString_inj (isFirst.2.trans isSecond.2.symm)
  have sameName : first.name = second.name :=
    ClassDecl.name_eq_of_parts (slashed first isFirst.1) (slashed second isSecond.1) samePackage
      (CodePoints.ofString_inj sameKey)
  exact List.inj_on_of_nodup_map distinct isFirst.1 isSecond.1 sameName

theorem repeatedTypes_eq_nil {classes : List ClassDecl} (distinct : (classes.map ClassDecl.name).Nodup)
    (slashed : ∀ decl ∈ classes, decl.HasSlashedName) (source : CodePoints) (right : Surface) :
    repeatedTypes ⟨source, groupByPackage classes⟩ right = [] := by
  refine List.flatMap_eq_nil_iff.mpr fun package member => ?_
  exact repetitions_eq_nil
    (nodup_keys_of_mem_groupByPackage distinct slashed (List.mem_filter.mp member).1)

/-- Dots and slashes make two names for one place. -/
example :
    (repeatedTypes ⟨[], groupByPackage [⟨"a/b/C", 0, none, [], by decide⟩,
      ⟨"a.b/C", 0, none, [], by decide⟩]⟩ ⟨[], [⟨.ofString "a.b", []⟩]⟩).map ClassDecl.name =
        ["a/b/C"] := by
  cbv

/-- **No class or method vanishes silently.** The classes of an archive are those that a comparison
counts, those it reports as removed, alone or with their package, and those that stand behind another
class of their simple name; with proper names there are none of the last kind. The same holds of the
methods of the types that are compared. -/
theorem compare_conserves (classes : List ClassDecl) (source : CodePoints) (right : Surface)
    (detectChanges : Bool) :
    Conserved classes ⟨source, groupByPackage classes⟩ right
      (Surface.compare ⟨Collected.sink, detectChanges⟩ {} ⟨source, groupByPackage classes⟩ right)
      (findings detectChanges ⟨source, groupByPackage classes⟩ right) where
  entries := Collected.entries_compare {} _ _ _
  types := by
    have types := @length_types ⟨source, groupByPackage classes⟩
      (nodup_keys_groupByPackage classes) detectChanges right
    rw [typeCount_groupByPackage] at types
    rw [typesCompared_compare]
    omega
  methods := by
    have methods := length_methodsOfCommon detectChanges ⟨source, groupByPackage classes⟩ right
    rw [methodsCompared_compare]
    omega
  noRepetition distinct slashed := repeatedTypes_eq_nil distinct slashed source right

end Comparison

end SurfaceDiff
