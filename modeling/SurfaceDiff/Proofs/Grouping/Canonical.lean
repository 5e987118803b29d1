import Mathlib.Data.Fin.Basic
import Mathlib.Data.List.FinRange
import Mathlib.Data.List.Sort
import Mathlib.Logic.Equiv.Basic
import SurfaceDiff.Proofs.Grouping
import SurfaceDiff.Proofs.Text.Order

/-!
Contract: sorting classes into packages as a stable and canonical partition.

Owns: `IsPackaging`, in which the classes alone say what packages there are, what they hold and in
which order; `KeepsOrder`, the permutations that leave classes of one name in their order; and the
theorem that `groupByPackage` yields such packages, the same ones for its own result and for all such
permutations.
Does not own: which of several classes of one name a comparison takes.

Packages are in the order of dotted names and types in the order of internal ones, which is not the
same order: a slash comes behind a dot. Nothing here needs the two to agree, only that the internal name
decides about the package.
-/

namespace SurfaceDiff

open Text

/-- The name of the second class does not come before that of the first, code point by code point. -/
def ClassDecl.InOrder (first second : ClassDecl) : Prop :=
  ¬CodePoints.Precedes (.ofString second.name) (.ofString first.name)

/-- What there is to say about some classes sorted into packages. -/
structure IsPackaging (classes : List ClassDecl) (packages : List Package) : Prop where
  names_increasing : CodePoints.Increasing (packages.map Package.key)
  mem_names_iff : ∀ name, name ∈ packages.map Package.name ↔
    ∃ decl ∈ classes, .ofString decl.packageName = name
  types_ne_nil : ∀ package ∈ packages, package.types ≠ []
  packageName_eq : ∀ package ∈ packages, ∀ decl ∈ package.types,
    .ofString decl.packageName = package.name
  types_perm : (packages.flatMap Package.types).Perm classes
  types_inOrder : ∀ package ∈ packages, package.types.Pairwise ClassDecl.InOrder
  types_stable : ∀ package ∈ packages, ∀ decl ∈ package.types,
    package.types.filter (fun other => other.name = decl.name) =
      classes.filter fun other => other.name = decl.name

/-- The second list is the first one permuted, and classes of one name are in the same order in both. -/
def KeepsOrder (first second : List ClassDecl) : Prop :=
  ∃ place : Fin first.length ≃ Fin second.length,
    (∀ position, second.get (place position) = first.get position) ∧
      ∀ earlier later, earlier < later → (first.get earlier).name = (first.get later).name →
        place earlier < place later

/-! ## Names -/

theorem ClassDecl.packageName_congr {first second : ClassDecl} (same : first.name = second.name) :
    first.packageName = second.packageName := by
  unfold packageName
  rw [same]

theorem ClassDecl.inOrder_iff (first second : ClassDecl) :
    first.InOrder second ↔ ordersByName first second := by
  unfold InOrder ordersByName
  rw [CodePoints.precedes_ofString_iff, String.not_lt, decide_eq_true_eq]

theorem names_groupByPackage_increasing (classes : List ClassDecl) :
    CodePoints.Increasing ((groupByPackage classes).map Package.key) := by
  rw [map_key_groupByPackage]
  refine List.pairwise_map.mpr ((packageNames_ordered classes).imp fun precedes => ?_)
  rw [CodePoints.precedes_ofString_iff]
  exact compareOfLessAndEq_eq_lt.mp precedes

/-! ## Types -/

/-- The classes that name a package are sorted there. -/
theorem exists_name_of_mem {classes : List ClassDecl} {package : Package}
    (member : package ∈ groupByPackage classes) :
    ∃ name ∈ packageNames classes, package.name = .ofString name ∧
      package.types = sortByName (classes.filter fun decl => decl.packageName = name) := by
  obtain ⟨name, isName, rfl⟩ := List.mem_map.mp member
  exact ⟨name, isName, rfl, rfl⟩

theorem packageName_of_mem_types {classes : List ClassDecl} {package : Package}
    (member : package ∈ groupByPackage classes) {decl : ClassDecl} (isType : decl ∈ package.types) :
    .ofString decl.packageName = package.name := by
  have selected := (types_perm_of_mem member).mem_iff.mp isType
  exact of_decide_eq_true (List.mem_filter.mp selected).2

theorem types_ne_nil_of_mem {classes : List ClassDecl} {package : Package}
    (member : package ∈ groupByPackage classes) : package.types ≠ [] := by
  obtain ⟨name, isName, packageName, _⟩ := exists_name_of_mem member
  obtain ⟨decl, isClass, named⟩ := (mem_packageNames classes name).mp isName
  have isType : decl ∈ package.types := by
    refine (types_perm_of_mem member).mem_iff.mpr (List.mem_filter.mpr ⟨isClass, ?_⟩)
    rw [named, packageName, decide_eq_true_eq]
  exact List.ne_nil_of_mem isType

/-- Types of one name are all the classes of this name, since these share their package. -/
theorem filter_types {classes : List ClassDecl} {package : Package}
    (member : package ∈ groupByPackage classes) {decl : ClassDecl} (isType : decl ∈ package.types) :
    package.types.filter (fun other => other.name = decl.name) =
      classes.filter fun other => other.name = decl.name := by
  obtain ⟨name, _, packageName, sorted⟩ := exists_name_of_mem member
  rw [sorted, filter_sortByName, List.filter_filter]
  refine List.filter_congr fun other _ => ?_
  by_cases same : other.name = decl.name
  · have housed : other.packageName = name := by
      rw [ClassDecl.packageName_congr same]
      exact CodePoints.ofString_inj ((packageName_of_mem_types member isType).trans packageName)
    simp [same, housed]
  · simp [same]

/-! ## Packages taken together again -/

/-- Laid out by key, items that share their key come together in one place. -/
theorem flatMap_filter_eq_of_forall {α : Type} (key : α → String) {items : List α} {name : String}
    {names : List String} (nodup : names.Nodup) (isName : name ∈ names)
    (named : ∀ item ∈ items, key item = name) :
    (names.flatMap fun other => items.filter fun item => key item = other) = items := by
  have elsewhere : ∀ others : List String, name ∉ others →
      (others.flatMap fun other => items.filter fun item => key item = other) = [] := by
    intro others absent
    refine List.flatMap_eq_nil_iff.mpr fun other isOther => List.filter_eq_nil_iff.mpr ?_
    intro item isItem same
    rw [decide_eq_true_eq, named item isItem] at same
    exact absent (same ▸ isOther)
  have here : items.filter (fun item => key item = name) = items :=
    List.filter_eq_self.mpr fun item isItem => decide_eq_true (named item isItem)
  obtain ⟨before, after, rfl⟩ := List.append_of_mem isName
  have apart := List.nodup_middle.mp nodup
  have absent := (List.nodup_cons.mp apart).1
  rw [List.mem_append, not_or] at absent
  rw [List.flatMap_append, List.flatMap_cons, here, elsewhere before absent.1,
    elsewhere after absent.2, List.nil_append, List.append_nil]

theorem sameByName_flatMap_types (classes : List ClassDecl) :
    SameByName ((groupByPackage classes).flatMap Package.types) classes := by
  intro name
  have parts : ((groupByPackage classes).flatMap Package.types).filter (fun decl => decl.name = name) =
      (packageNames classes).flatMap fun package =>
        (classes.filter fun decl => decl.name = name).filter fun decl => decl.packageName = package := by
    unfold groupByPackage
    rw [List.flatMap_map, List.filter_flatMap]
    refine List.flatMap_congr fun package _ => ?_
    rw [filter_sortByName, List.filter_comm]
  rw [parts]
  cases selected : classes.filter fun decl => decl.name = name with
  | nil => simp
  | cons decl rest =>
      have ofName : ∀ other ∈ decl :: rest, other ∈ classes ∧ other.name = name := by
        intro other member
        rw [← selected] at member
        simpa using member
      -- All classes of the name are in one package, and every other package adds nothing.
      have isClass := (ofName decl List.mem_cons_self).1
      refine flatMap_filter_eq_of_forall ClassDecl.packageName (nodup_packageNames classes)
        ((mem_packageNames classes _).mpr ⟨decl, isClass, rfl⟩) fun other member => ?_
      have sameName := (ofName other member).2.trans (ofName decl List.mem_cons_self).2.symm
      exact ClassDecl.packageName_congr sameName

/-! ## Permutations -/

/-- Where places keep the order of selected positions, these are listed as they stand on the other side. -/
theorem map_filter_finRange {count total : Nat} (place : Fin count ≃ Fin total)
    {keep : Fin count → Bool} {keepAfter : Fin total → Bool}
    (agree : ∀ position, keepAfter (place position) = keep position)
    (ordered : ∀ earlier later, earlier < later → keep earlier → keep later →
      place earlier < place later) :
    ((List.finRange count).filter keep).map place = (List.finRange total).filter keepAfter := by
  have isFirst : (((List.finRange count).filter keep).map place).SortedLT :=
    (List.pairwise_map.mpr (List.pairwise_filter.mpr
      ((List.pairwise_lt_finRange count).imp (ordered _ _)))).sortedLT
  have isSecond : ((List.finRange total).filter keepAfter).SortedLT :=
    ((List.pairwise_lt_finRange total).filter keepAfter).sortedLT
  refine isFirst.eq_of_mem_iff isSecond fun position => ?_
  rw [List.mem_map, List.mem_filter]
  constructor
  · rintro ⟨origin, isKept, rfl⟩
    exact ⟨List.mem_finRange _, (agree origin).trans (List.mem_filter.mp isKept).2⟩
  · intro isKept
    have origin : keep (place.symm position) := by
      rw [← agree, place.apply_symm_apply]
      exact isKept.2
    exact ⟨_, List.mem_filter.mpr ⟨List.mem_finRange _, origin⟩, place.apply_symm_apply position⟩

theorem filter_eq_map_get {α : Type} (items : List α) (keep : α → Bool) :
    items.filter keep =
      ((List.finRange items.length).filter fun position => keep (items.get position)).map items.get := by
  conv_lhs => rw [← List.map_get_finRange items, List.filter_map]
  rfl

/-- Classes of one name stand at corresponding positions, in the order in which they stand. -/
theorem KeepsOrder.sameByName {first second : List ClassDecl} (keeps : KeepsOrder first second) :
    SameByName first second := by
  obtain ⟨place, same, ordered⟩ := keeps
  intro name
  have positions : ((List.finRange first.length).filter fun position =>
        (first.get position).name = name).map place =
      (List.finRange second.length).filter fun position => (second.get position).name = name := by
    refine map_filter_finRange place (fun position => by rw [same]) ?_
    intro earlier later before isEarlier isLater
    rw [decide_eq_true_eq] at isEarlier isLater
    exact ordered earlier later before (isEarlier.trans isLater.symm)
  rw [filter_eq_map_get first, filter_eq_map_get second, ← positions, List.map_map]
  exact List.map_congr_left fun position _ => (same position).symm

/-! ## The whole law -/

theorem isPackaging_groupByPackage (classes : List ClassDecl) :
    IsPackaging classes (groupByPackage classes) where
  names_increasing := names_groupByPackage_increasing classes
  mem_names_iff := mem_names_groupByPackage classes
  types_ne_nil := fun _ => types_ne_nil_of_mem
  packageName_eq := fun _ member _ => packageName_of_mem_types member
  types_perm := types_groupByPackage_perm classes
  types_inOrder := by
    intro package member
    obtain ⟨_, _, _, sorted⟩ := exists_name_of_mem member
    rw [sorted]
    exact (sortByName_ordered _).imp (ClassDecl.inOrder_iff _ _).mpr
  types_stable := fun _ member _ => filter_types member

/-- **Grouping is a stable and canonical partition.** Every class is in the package that it names, once, in
the order of internal names and behind the classes of its own name that come before it. The packages
taken together give the same packages again, and so does every permutation that keeps the order of
classes of one name. -/
theorem groupByPackage_canonical (classes : List ClassDecl) :
    IsPackaging classes (groupByPackage classes) ∧
      groupByPackage ((groupByPackage classes).flatMap Package.types) = groupByPackage classes ∧
      ∀ others, KeepsOrder classes others → groupByPackage others = groupByPackage classes :=
  ⟨isPackaging_groupByPackage classes, (sameByName_flatMap_types classes).groupByPackage_eq,
    fun _ keeps => keeps.sameByName.groupByPackage_eq.symm⟩

/-- A class of the package `net.io` that is told by its flags from others of its name. -/
def slashedClass (accessFlags : Int) : ClassDecl :=
  { name := "net/io/Pipe", accessFlags, name_ne_empty := by decide }

/-- A class of the same package, before the others in the order of internal names. -/
def dottedClass : ClassDecl :=
  { name := "net.io/Pipe", name_ne_empty := by decide }

theorem keepsOrder_sample :
    KeepsOrder [slashedClass 1, dottedClass, slashedClass 2]
      [dottedClass, slashedClass 1, slashedClass 2] :=
  ⟨Equiv.swap (0 : Fin 3) 1, by decide +kernel, by decide +kernel⟩

theorem groupByPackage_canonical_sample :
    KeepsOrder [slashedClass 1, dottedClass, slashedClass 2]
        [dottedClass, slashedClass 1, slashedClass 2] ∧
      groupByPackage [dottedClass, slashedClass 1, slashedClass 2] =
        groupByPackage [slashedClass 1, dottedClass, slashedClass 2] :=
  ⟨keepsOrder_sample, (groupByPackage_canonical _).2.2 _ keepsOrder_sample⟩

end SurfaceDiff
