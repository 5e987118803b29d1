import Mathlib.Data.List.Perm.Basic
import SurfaceDiff.Grouping
import SurfaceDiff.Identity
import SurfaceDiff.Proofs.Repetition
import SurfaceDiff.Proofs.Text.Order

/-!
Contract: classes sorted into packages, with none lost and none doubled, whatever order they come in.

Owns: the names of the packages as a set, the packages taken together as a rearrangement of the
classes, the first class of a kind in the order of names, and the law that packages depend on the order
of classes of one name only.
-/

namespace SurfaceDiff

/-! ## Names of packages -/

theorem mem_packageNames (classes : List ClassDecl) (name : String) :
    name ∈ packageNames classes ↔ ∃ decl ∈ classes, decl.packageName = name := by
  unfold packageNames
  rw [Std.TreeSet.mem_toList, Std.TreeSet.mem_ofList, List.contains_iff_mem, List.mem_map]

theorem nodup_packageNames (classes : List ClassDecl) : (packageNames classes).Nodup := by
  have distinct : (packageNames classes).Pairwise fun first second => ¬compare first second = .eq :=
    Std.TreeSet.distinct_toList
  exact distinct.imp fun differ same => differ (Std.LawfulEqCmp.compare_eq_iff_eq.mpr same)

theorem map_name_groupByPackage (classes : List ClassDecl) :
    (groupByPackage classes).map Package.name = (packageNames classes).map Text.CodePoints.ofString := by
  unfold groupByPackage
  rw [List.map_map]
  rfl

theorem mem_names_groupByPackage (classes : List ClassDecl) (name : Text.CodePoints) :
    name ∈ (groupByPackage classes).map Package.name ↔
      ∃ decl ∈ classes, .ofString decl.packageName = name := by
  simp only [map_name_groupByPackage, List.mem_map, mem_packageNames]
  constructor
  · rintro ⟨_, ⟨decl, isClass, rfl⟩, named⟩
    exact ⟨decl, isClass, named⟩
  · rintro ⟨decl, isClass, named⟩
    exact ⟨_, ⟨decl, isClass, rfl⟩, named⟩

theorem map_key_groupByPackage (classes : List ClassDecl) :
    (groupByPackage classes).map Package.key = (packageNames classes).map Text.CodePoints.ofString :=
  map_name_groupByPackage classes

/-- A package holds the classes that name it. -/
theorem types_perm_of_mem {classes : List ClassDecl} {package : Package}
    (member : package ∈ groupByPackage classes) :
    package.types.Perm (classes.filter fun decl => .ofString decl.packageName = package.name) := by
  obtain ⟨name, _, rfl⟩ := List.mem_map.mp member
  have same (decl : ClassDecl) : .ofString decl.packageName = Text.CodePoints.ofString name ↔
      decl.packageName = name := ⟨Text.CodePoints.ofString_inj, congrArg _⟩
  simp only [same]
  exact List.mergeSort_perm _ _

/-! ## Packages together -/

variable {α : Type}

/-- Items laid out by key, each key once, are the items whose key is among these. -/
theorem flatMap_filter_perm (key : α → String) (items : List α) (names : List String)
    (nodup : names.Nodup) :
    (names.flatMap fun name => items.filter fun item => key item = name).Perm
      (items.filter fun item => key item ∈ names) := by
  induction names with
  | nil => simp
  | cons name rest inductionHypothesis =>
      obtain ⟨isNew, nodup⟩ := List.nodup_cons.mp nodup
      -- The items of this name are a part of the right side, and all others have a later name.
      have here : (items.filter fun item => key item ∈ name :: rest).filter
            (fun item => key item = name) = items.filter fun item => key item = name := by
        rw [List.filter_filter]
        refine List.filter_congr fun item _ => ?_
        by_cases same : key item = name
        · simp [same]
        · simp [same]
      have later : (items.filter fun item => key item ∈ name :: rest).filter
            (fun item => !decide (key item = name)) = items.filter fun item => key item ∈ rest := by
        rw [List.filter_filter]
        refine List.filter_congr fun item _ => ?_
        by_cases same : key item = name
        · simp [same, isNew]
        · simp [same]
      have split := List.filter_append_perm (fun item => decide (key item = name))
        (items.filter fun item => key item ∈ name :: rest)
      rw [here, later] at split
      rw [List.flatMap_cons]
      exact ((inductionHypothesis nodup).append_left _).trans split

theorem types_groupByPackage_perm (classes : List ClassDecl) :
    ((groupByPackage classes).flatMap Package.types).Perm classes := by
  have sorted : ((groupByPackage classes).flatMap Package.types).Perm
      ((packageNames classes).flatMap fun name =>
        classes.filter fun decl => decl.packageName = name) := by
    unfold groupByPackage
    rw [List.flatMap_map]
    exact List.Perm.flatMap_left _ fun name _ => List.mergeSort_perm _ _
  have all : (classes.filter fun decl => decl.packageName ∈ packageNames classes) = classes :=
    List.filter_eq_self.mpr fun decl isClass =>
      decide_eq_true ((mem_packageNames classes _).mpr ⟨decl, isClass, rfl⟩)
  have laidOut := flatMap_filter_perm ClassDecl.packageName classes (packageNames classes)
    (nodup_packageNames classes)
  rw [all] at laidOut
  exact sorted.trans laidOut

theorem typeCount_groupByPackage (source : Text.CodePoints) (classes : List ClassDecl) :
    Surface.typeCount ⟨source, groupByPackage classes⟩ = classes.length :=
  (types_groupByPackage_perm classes).length_eq

/-! ## The order of classes

Sorting is stable: it keeps the classes of one name in their order. A list in the order of names is
determined by what it holds under each name. -/

/-- Whether the name of a class does not come behind that of another one. -/
def ordersByName (first second : ClassDecl) : Bool :=
  first.name ≤ second.name

theorem ordersByName_trans (first second third : ClassDecl) (isFirst : ordersByName first second)
    (isSecond : ordersByName second third) : ordersByName first third :=
  decide_eq_true (String.le_trans (of_decide_eq_true isFirst) (of_decide_eq_true isSecond))

theorem ordersByName_total (first second : ClassDecl) :
    ordersByName first second || ordersByName second first := by
  simpa [ordersByName] using String.le_total first.name second.name

theorem sortByName_ordered (classes : List ClassDecl) :
    (sortByName classes).Pairwise fun first second => ordersByName first second :=
  List.pairwise_mergeSort ordersByName_trans ordersByName_total classes

theorem filter_sortByName (classes : List ClassDecl) (name : String) :
    (sortByName classes).filter (fun decl => decl.name = name) =
      classes.filter fun decl => decl.name = name := by
  have equalNames : (classes.filter fun decl => decl.name = name).Pairwise
      fun first second => ordersByName first second := by
    refine List.pairwise_of_forall_mem_list fun first isFirst second isSecond => ?_
    have firstName := of_decide_eq_true (List.mem_filter.mp isFirst).2
    have secondName := of_decide_eq_true (List.mem_filter.mp isSecond).2
    have sameName : first.name = second.name := firstName.trans secondName.symm
    show decide (first.name ≤ second.name) = true
    rw [sameName]
    exact decide_eq_true (String.le_refl second.name)
  have inside : (classes.filter fun decl => decl.name = name).Sublist (sortByName classes) :=
    List.sublist_mergeSort ordersByName_trans ordersByName_total equalNames List.filter_sublist
  have kept := inside.filter fun decl => decl.name = name
  rw [List.filter_filter] at kept
  simp only [Bool.and_self] at kept
  exact (kept.eq_of_length ((List.mergeSort_perm classes _).filter _).length_eq.symm).symm

/-- The same classes under each name, and these in the same order. -/
def SameByName (first second : List ClassDecl) : Prop :=
  ∀ name, first.filter (fun decl => decl.name = name) = second.filter fun decl => decl.name = name

theorem SameByName.symm {first second : List ClassDecl} (same : SameByName first second) :
    SameByName second first :=
  fun name => (same name).symm

theorem SameByName.mem_iff {first second : List ClassDecl} (same : SameByName first second)
    (decl : ClassDecl) : decl ∈ first ↔ decl ∈ second := by
  have byName := congrArg (decl ∈ ·) (same decl.name)
  simpa using byName

/-- The first class in the order of names has no later name than any other class. -/
theorem SameByName.head_le {decl other : ClassDecl} {rest others : List ClassDecl}
    (same : SameByName (decl :: rest) (other :: others))
    (ordered : (decl :: rest).Pairwise fun first second => ordersByName first second) :
    decl.name ≤ other.name := by
  rcases List.mem_cons.mp ((same.mem_iff other).mpr List.mem_cons_self) with rfl | later
  · exact String.le_refl _
  · exact of_decide_eq_true (List.rel_of_pairwise_cons ordered later)

theorem SameByName.eq_of_ordered {first second : List ClassDecl} (same : SameByName first second)
    (isFirst : first.Pairwise fun decl other => ordersByName decl other)
    (isSecond : second.Pairwise fun decl other => ordersByName decl other) : first = second := by
  induction first generalizing second with
  | nil =>
      cases second with
      | nil => rfl
      | cons other others => exact absurd ((same.mem_iff other).mpr List.mem_cons_self) List.not_mem_nil
  | cons decl rest inductionHypothesis =>
      cases second with
      | nil => exact absurd ((same.mem_iff decl).mp List.mem_cons_self) List.not_mem_nil
      | cons other others =>
          have sameName : decl.name = other.name :=
            String.le_antisymm (same.head_le isFirst) (same.symm.head_le isSecond)
          -- Both are the first of their name, and therefore the same class.
          have here := same decl.name
          rw [List.filter_cons_of_pos (by simp), List.filter_cons_of_pos (by simp [sameName])] at here
          obtain ⟨rfl, _⟩ := List.cons.inj here
          refine congrArg (decl :: ·) (inductionHypothesis (fun name => ?_) isFirst.of_cons
            isSecond.of_cons)
          have later := same name
          by_cases isName : decl.name = name
          · simpa [isName] using later
          · simpa [isName] using later

theorem SameByName.filter {first second : List ClassDecl} (same : SameByName first second)
    (keep : ClassDecl → Bool) : SameByName (first.filter keep) (second.filter keep) := by
  intro name
  rw [List.filter_comm, same name, List.filter_comm]

theorem SameByName.sortByName_eq {first second : List ClassDecl} (same : SameByName first second) :
    sortByName first = sortByName second := by
  refine eq_of_ordered (fun name => ?_) (sortByName_ordered first) (sortByName_ordered second)
  rw [filter_sortByName, filter_sortByName, same name]

/-- Sorting and leaving classes out can be exchanged. -/
theorem sortByName_filter (classes : List ClassDecl) (keep : ClassDecl → Bool) :
    sortByName (classes.filter keep) = (sortByName classes).filter keep := by
  refine SameByName.eq_of_ordered (fun name => ?_) (sortByName_ordered _)
    ((sortByName_ordered classes).filter keep)
  rw [filter_sortByName, List.filter_comm, List.filter_comm _ keep, filter_sortByName]

section FirstSorted

variable {classes : List ClassDecl} {keep : ClassDecl → Bool}
  (byName : ∀ first second : ClassDecl, first.name = second.name → keep first = keep second)

include byName

/-- The first class in the order of names has the least name, and was given first under it. -/
theorem least_of_find?_sortByName {decl : ClassDecl}
    (found : (sortByName classes).find? keep = some decl) :
    (∀ other ∈ classes, keep other → decl.name ≤ other.name) ∧
      classes.find? (fun other => other.name = decl.name) = some decl := by
  obtain ⟨isKept, before, after, split, dropped⟩ := List.find?_eq_some_iff_append.mp found
  have ordered := sortByName_ordered classes
  have sameName := filter_sortByName classes decl.name
  rw [split] at ordered sameName
  constructor
  · intro other member keeps
    have sorted : other ∈ sortByName classes := (List.mergeSort_perm _ _).mem_iff.mpr member
    rw [split, List.mem_append, List.mem_cons] at sorted
    rcases sorted with isBefore | rfl | isAfter
    · have drops := dropped other isBefore
      rw [keeps] at drops
      cases drops
    · exact String.le_refl _
    · exact of_decide_eq_true (List.rel_of_pairwise_cons (List.pairwise_append.mp ordered).2.1 isAfter)
  · have none : before.filter (fun other => other.name = decl.name) = [] := by
      refine List.filter_eq_nil_iff.mpr fun other isBefore same => ?_
      have drops := dropped other isBefore
      rw [byName other decl (of_decide_eq_true same), isKept] at drops
      cases drops
    rw [List.filter_append, none, List.nil_append, List.filter_cons_of_pos (by simp)] at sameName
    rw [← List.head?_filter, ← sameName, List.head?_cons]

theorem find?_sortByName_eq_some_iff (decl : ClassDecl) :
    (sortByName classes).find? keep = some decl ↔
      keep decl ∧ (∀ other ∈ classes, keep other → decl.name ≤ other.name) ∧
        classes.find? (fun other => other.name = decl.name) = some decl := by
  constructor
  · intro found
    exact ⟨List.find?_some found, least_of_find?_sortByName byName found⟩
  · rintro ⟨isKept, least, first⟩
    have member := List.mem_of_find?_eq_some first
    have sorted : decl ∈ sortByName classes := (List.mergeSort_perm _ _).mem_iff.mpr member
    obtain ⟨other, found⟩ := Option.isSome_iff_exists.mp
      (List.find?_isSome.mpr ⟨decl, sorted, isKept⟩)
    obtain ⟨otherLeast, otherFirst⟩ := least_of_find?_sortByName byName found
    have sameName : other.name = decl.name := String.le_antisymm (otherLeast decl member isKept)
      (least other (List.mem_of_find?_eq_some otherFirst) (List.find?_some found))
    rw [sameName, first] at otherFirst
    rw [found, otherFirst]

end FirstSorted

theorem packageNames_ordered (classes : List ClassDecl) :
    (packageNames classes).Pairwise fun first second => compare first second = .lt :=
  Std.TreeSet.ordered_toList

theorem SameByName.packageNames_eq {first second : List ClassDecl} (same : SameByName first second) :
    packageNames first = packageNames second := by
  have members : ∀ name, name ∈ packageNames first ↔ name ∈ packageNames second := by
    intro name
    simp only [mem_packageNames, same.mem_iff]
  refine ((List.perm_ext_iff_of_nodup (nodup_packageNames first) (nodup_packageNames second)).mpr
    members).eq_of_pairwise ?_ (packageNames_ordered first) (packageNames_ordered second)
  intro name other _ _ precedes reverse
  rw [Std.OrientedOrd.eq_swap, reverse] at precedes
  contradiction

/-- Classes that are given in another order, but under each name in the same one, make the same
packages. -/
theorem SameByName.groupByPackage_eq {first second : List ClassDecl} (same : SameByName first second) :
    groupByPackage first = groupByPackage second := by
  unfold groupByPackage
  rw [same.packageNames_eq]
  exact List.map_congr_left fun name _ => by rw [(same.filter _).sortByName_eq]

/-- Where no name occurs twice, the order of the classes does not matter. -/
theorem groupByPackage_eq_of_perm {first second : List ClassDecl}
    (distinct : (first.map ClassDecl.name).Nodup) (perm : first.Perm second) :
    groupByPackage first = groupByPackage second :=
  SameByName.groupByPackage_eq (filter_eq_of_perm distinct perm)

end SurfaceDiff
