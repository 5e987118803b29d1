import SurfaceDiff.Proofs.Comparison.Conservation
import SurfaceDiff.Proofs.Comparison.Invariance

/-!
Contract: which of several classes of one package and one simple name is compared.

Owns: `IsChosen`, the earliest of the classes with the least name; the look-ups in grouped classes in
terms of it; and the theorem that the chosen classes are those that comparisons go into, on either side,
and all that comparisons depend on.
Does not own: how classes are read; their order is that in which they are given.

Sorting looks at the whole name and matching at the simple name alone, so two classes can meet that
share neither name nor contents. A comparison in turn sees a surface through its look-ups only.
-/

namespace SurfaceDiff

open Text

/-! ## What a comparison sees of a surface -/

/-- The same packages, with the same type under each simple name. -/
structure Surface.HoldsAlike (first second : Surface) : Prop where
  packages : ∀ name, (first.package? name).isSome = (second.package? name).isSome
  types : ∀ package name, first.type? package name = second.type? package name

theorem Surface.HoldsAlike.refl (surface : Surface) : surface.HoldsAlike surface :=
  ⟨fun _ => rfl, fun _ _ => rfl⟩

/-- The packages have one name, and the same type under each simple name. -/
def Package.HoldsAlike (first second : Package) : Prop :=
  first.name = second.name ∧ ∀ name, first.type? name = second.type? name

theorem Package.HoldsAlike.firstsAgree {first second : Package} (alike : first.HoldsAlike second) :
    FirstsAgree ClassDecl.key Eq first.types second.types :=
  .of_eq Eq.refl alike.2

theorem Surface.HoldsAlike.firstsAgree {first second : Surface} (alike : first.HoldsAlike second) :
    FirstsAgree Package.key Package.HoldsAlike first.packages second.packages := by
  intro wanted
  show Option.Rel _ (first.package? wanted) (second.package? wanted)
  have same := alike.packages wanted
  cases isFirst : first.package? wanted with
  | none =>
      rw [isFirst, eq_comm, Option.isSome_none, Option.isSome_eq_false_iff, Option.isNone_iff_eq_none]
        at same
      rw [same]
      exact .none
  | some package =>
      rw [isFirst, eq_comm, Option.isSome_some, Option.isSome_iff_exists] at same
      obtain ⟨other, isSecond⟩ := same
      rw [isSecond]
      have sameKey : package.key = other.key := by
        rw [Package.key_of_package? isFirst, Package.key_of_package? isSecond]
      refine .some ⟨sameKey, fun name => ?_⟩
      rw [← Surface.type?_of_package? isFirst, ← Surface.type?_of_package? isSecond]
      exact alike.types wanted name

namespace Comparison

/-- Both packages of a pair hold alike. -/
def PackagesAlike (packages packagesAfter : Package × Package) : Prop :=
  packages.1.HoldsAlike packagesAfter.1 ∧ packages.2.HoldsAlike packagesAfter.2

theorem matchedTypes_alike {packages packagesAfter : Package × Package}
    (alike : PackagesAlike packages packagesAfter) :
    matchedTypes packages = matchedTypes packagesAfter := by
  have common := common_of_firstsAgree alike.1.firstsAgree alike.2.firstsAgree
  have equal : List.Forall₂ Eq (matchedTypes packages) (matchedTypes packagesAfter) :=
    common.imp fun _ _ same => Prod.ext same.1 same.2
  rwa [List.forall₂_eq_eq_eq] at equal

theorem packageFindings_alike {packages packagesAfter : Package × Package}
    (alike : PackagesAlike packages packagesAfter) (detectChanges : Bool) :
    packageFindings detectChanges packages = packageFindings detectChanges packagesAfter :=
  packageFindings_congr alike.1.1 alike.1.firstsAgree alike.2.firstsAgree
    fun _ _ _ isLeft isRight => congrArg _ (Prod.ext isLeft isRight)

/-- A comparison depends on nothing but the look-ups of its surfaces. -/
theorem reportsAlike_of_holdsAlike {left leftAfter right rightAfter : Surface}
    (isLeft : left.HoldsAlike leftAfter) (isRight : right.HoldsAlike rightAfter) :
    ReportsAlike left right leftAfter rightAfter := by
  have packages : List.Forall₂ PackagesAlike (matchedPackages left right)
      (matchedPackages leftAfter rightAfter) :=
    common_of_firstsAgree isLeft.firstsAgree isRight.firstsAgree
  have types : visitedTypes left right = visitedTypes leftAfter rightAfter :=
    flatMap_of_forall₂ packages fun _ _ _ => matchedTypes_alike
  have found : ∀ detectChanges, findings detectChanges left right =
      findings detectChanges leftAfter rightAfter :=
    fun detectChanges => findings_congr isLeft.firstsAgree isRight.firstsAgree
      fun _ _ _ leftAlike rightAlike => packageFindings_alike ⟨leftAlike, rightAlike⟩ detectChanges
  have methods := congrArg (fun types => (types.flatMap matchedMethods).length) types
  intro _ plan state
  exact reportsAlike_of_findings found packages.length_eq (congrArg List.length types) methods plan
    state

/-- The two types that a comparison goes into under a package name and a simple name. -/
def TakePart (left right : Surface) (package simple : String) (types : ClassDecl × ClassDecl) : Prop :=
  ∃ packages ∈ matchedPackages left right, packages.1.name = .ofString package ∧
    types ∈ matchedTypes packages ∧ types.1.simpleName = simple

theorem takePart_iff (left right : Surface) (package simple : String) (first second : ClassDecl) :
    TakePart left right package simple (first, second) ↔
      left.type? (.ofString package) (.ofString simple) = some first ∧
        right.type? (.ofString package) (.ofString simple) = some second := by
  rw [Surface.type?_eq_some_iff, Surface.type?_eq_some_iff]
  constructor
  · rintro ⟨⟨holder, other⟩, common, isPackage, isCommon, rfl⟩
    rw [← isPackage]
    obtain ⟨isLeft, isRight⟩ := (mem_commonPackages left right holder other).mp common
    obtain ⟨isFirst, isSecond⟩ := (mem_commonTypes holder other first second).mp isCommon
    exact ⟨⟨holder, isLeft, isFirst⟩, ⟨other, isRight, isSecond⟩⟩
  · rintro ⟨⟨holder, isLeft, isFirst⟩, ⟨other, isRight, isSecond⟩⟩
    have packageKey := Package.key_of_package? isLeft
    have typeKey := ClassDecl.key_of_type? isFirst
    refine ⟨(holder, other), (mem_commonPackages left right holder other).mpr ?_,
      packageKey, (mem_commonTypes holder other first second).mpr ?_,
      CodePoints.ofString_inj typeKey⟩
    · rw [packageKey]
      exact ⟨isLeft, isRight⟩
    · rw [typeKey]
      exact ⟨isFirst, isSecond⟩

end Comparison

/-! ## The chosen class -/

def ClassDecl.IsAt (decl : ClassDecl) (package simple : String) : Prop :=
  decl.packageName = package ∧ decl.simpleName = simple

instance (decl : ClassDecl) (package simple : String) : Decidable (decl.IsAt package simple) :=
  inferInstanceAs (Decidable (_ ∧ _))

/-- The class given at an index is at the place, none of those at the place has a lesser name, and none
given earlier has the same one. -/
structure IsChosen (classes : List ClassDecl) (package simple : String) (index : Nat)
    (decl : ClassDecl) : Prop where
  given : classes[index]? = some decl
  isAt : decl.IsAt package simple
  least : ∀ other ∈ classes, other.IsAt package simple → decl.name ≤ other.name
  earliest : ∀ earlier < index, ∀ other, classes[earlier]? = some other → other.name ≠ decl.name

/-- Package name and simple name are parts of the name. -/
theorem ClassDecl.isAt_of_name_eq {first second : ClassDecl} (same : first.name = second.name)
    {package simple : String} (isAt : first.IsAt package simple) : second.IsAt package simple := by
  unfold IsAt packageName simpleName at isAt ⊢
  rwa [same] at isAt

theorem exists_isChosen_iff (classes : List ClassDecl) (package simple : String) (decl : ClassDecl) :
    (∃ index, IsChosen classes package simple index decl) ↔
      decl.IsAt package simple ∧
        (∀ other ∈ classes, other.IsAt package simple → decl.name ≤ other.name) ∧
        classes.find? (fun other => other.name = decl.name) = some decl := by
  rw [List.find?_eq_some_iff_getElem]
  constructor
  · rintro ⟨index, chosen⟩
    obtain ⟨within, given⟩ := List.getElem?_eq_some_iff.mp chosen.given
    refine ⟨chosen.isAt, chosen.least, by simp, index, within, given, fun earlier before => ?_⟩
    have differs := chosen.earliest earlier before _ (List.getElem?_eq_getElem (by omega))
    simpa using differs
  · rintro ⟨isAt, least, _, index, within, given, earliest⟩
    refine ⟨index, List.getElem?_eq_some_iff.mpr ⟨within, given⟩, isAt, least, ?_⟩
    intro earlier before other isOther
    obtain ⟨_, rfl⟩ := List.getElem?_eq_some_iff.mp isOther
    simpa using earliest earlier before

section Grouped

variable (source : CodePoints) (classes : List ClassDecl)

theorem isSome_package?_groupByPackage (name : CodePoints) :
    ((Surface.mk source (groupByPackage classes)).package? name).isSome ↔
      ∃ decl ∈ classes, .ofString decl.packageName = name := by
  rw [Surface.package?, List.find?_isSome]
  constructor
  · rintro ⟨package, isPackage, sameKey⟩
    obtain ⟨decl, isClass, named⟩ :=
      (mem_names_groupByPackage classes package.name).mp (List.mem_map_of_mem isPackage)
    exact ⟨decl, isClass, named.trans (of_decide_eq_true sameKey)⟩
  · rintro ⟨decl, isClass, named⟩
    obtain ⟨package, isPackage, sameName⟩ :=
      List.mem_map.mp ((mem_names_groupByPackage classes name).mpr ⟨decl, isClass, named⟩)
    exact ⟨package, isPackage, decide_eq_true sameName⟩

/-- A look-up goes through all classes at the place in the order of their names. -/
theorem type?_groupByPackage (package simple : String) :
    (Surface.mk source (groupByPackage classes)).type? (.ofString package) (.ofString simple) =
      (sortByName classes).find? fun decl => decl.IsAt package simple := by
  cases isHolder : (Surface.mk source (groupByPackage classes)).package? (.ofString package) with
  | none =>
      rw [Surface.type?, isHolder, Option.bind_none, eq_comm, List.find?_eq_none]
      intro decl sorted isAt
      have member : decl ∈ classes := (List.mergeSort_perm _ _).mem_iff.mp sorted
      have held := (isSome_package?_groupByPackage source classes (.ofString package)).mpr
        ⟨decl, member, congrArg _ (of_decide_eq_true isAt).1⟩
      rw [isHolder] at held
      cases held
  | some holder =>
      rw [Surface.type?_of_package? isHolder]
      obtain ⟨name, _, rfl⟩ := List.mem_map.mp (List.mem_of_find?_eq_some isHolder)
      obtain rfl : name = package := CodePoints.ofString_inj (Package.key_of_package? isHolder)
      show (sortByName (classes.filter fun decl => decl.packageName = name)).find?
        (fun decl => decl.key = .ofString simple) = _
      -- Sorting a package's own classes is the same as picking them out of all classes sorted.
      rw [sortByName_filter, List.find?_filter]
      refine congrArg (List.find? · _) (funext fun decl => ?_)
      have sameKey : decl.key = .ofString simple ↔ decl.simpleName = simple :=
        ⟨CodePoints.ofString_inj, congrArg CodePoints.ofString⟩
      rw [Bool.eq_iff_iff]
      simp only [decide_eq_true_iff, sameKey]
      rfl

theorem type?_groupByPackage_eq_some_iff (package simple : String) (decl : ClassDecl) :
    (Surface.mk source (groupByPackage classes)).type? (.ofString package) (.ofString simple) =
        some decl ↔
      ∃ index, IsChosen classes package simple index decl := by
  have byName : ∀ first second : ClassDecl, first.name = second.name →
      decide (first.IsAt package simple) = decide (second.IsAt package simple) :=
    fun first second same => decide_eq_decide.mpr
      ⟨ClassDecl.isAt_of_name_eq same, ClassDecl.isAt_of_name_eq same.symm⟩
  rw [type?_groupByPackage, find?_sortByName_eq_some_iff byName, exists_isChosen_iff]
  simp only [decide_eq_true_eq]

variable {source classes}

/-- A look-up finds a class under its own two names. -/
theorem names_of_type?_groupByPackage {package name : CodePoints} {decl : ClassDecl}
    (found : (Surface.mk source (groupByPackage classes)).type? package name = some decl) :
    package = .ofString decl.packageName ∧ name = .ofString decl.simpleName := by
  refine ⟨?_, (Surface.key_of_type? found).symm⟩
  obtain ⟨holder, isHolder, inside⟩ := (Surface.type?_eq_some_iff _ _ _ decl).mp found
  have inPackage := (types_perm_of_mem (List.mem_of_find?_eq_some isHolder)).mem_iff.mp
    (List.mem_of_find?_eq_some inside)
  rw [← Package.key_of_package? isHolder, of_decide_eq_true (List.mem_filter.mp inPackage).2]
  rfl

/-! ## What the choice depends on -/

theorem IsChosen.mem {package simple : String} {index : Nat} {decl : ClassDecl}
    (chosen : IsChosen classes package simple index decl) : decl ∈ classes :=
  List.mem_of_getElem? chosen.given

/-- Where there is a class, one is chosen. -/
theorem exists_isChosen {decl : ClassDecl} {package simple : String} (member : decl ∈ classes)
    (isAt : decl.IsAt package simple) :
    ∃ index chosen, IsChosen classes package simple index chosen := by
  have sorted : decl ∈ sortByName classes := (List.mergeSort_perm _ _).mem_iff.mpr member
  have found : ((sortByName classes).find? fun decl => decl.IsAt package simple).isSome :=
    List.find?_isSome.mpr ⟨decl, sorted, decide_eq_true isAt⟩
  obtain ⟨chosen, found⟩ := Option.isSome_iff_exists.mp found
  rw [← type?_groupByPackage [], type?_groupByPackage_eq_some_iff] at found
  obtain ⟨index, isChosen⟩ := found
  exact ⟨index, chosen, isChosen⟩

/-- At a place no other class is chosen. -/
theorem IsChosen.unique {package simple : String} {index otherIndex : Nat} {decl other : ClassDecl}
    (chosen : IsChosen classes package simple index decl)
    (otherChosen : IsChosen classes package simple otherIndex other) : decl = other := by
  have found := (type?_groupByPackage_eq_some_iff [] classes package simple decl).mpr ⟨_, chosen⟩
  rw [(type?_groupByPackage_eq_some_iff [] classes package simple other).mpr ⟨_, otherChosen⟩] at found
  exact (Option.some.inj found).symm

end Grouped

/-- The same classes are chosen of both lists. -/
def ChosenAlike (classes classesAfter : List ClassDecl) : Prop :=
  ∀ package simple decl, (∃ index, IsChosen classes package simple index decl) ↔
    ∃ index, IsChosen classesAfter package simple index decl

/-- The lists hold classes of the same names in the same places, and in the places of the chosen ones the
same classes. The contents of all other classes are free. -/
structure DifferInOthers (classes classesAfter : List ClassDecl) : Prop where
  names : classes.map ClassDecl.name = classesAfter.map ClassDecl.name
  kept : ∀ package simple index decl, IsChosen classes package simple index decl →
    classesAfter[index]? = some decl

section Alike

variable {classes classesAfter : List ClassDecl}

theorem ChosenAlike.symm (alike : ChosenAlike classes classesAfter) :
    ChosenAlike classesAfter classes :=
  fun package simple decl => (alike package simple decl).symm

theorem ChosenAlike.exists_packageName (alike : ChosenAlike classes classesAfter) {name : CodePoints}
    (held : ∃ decl ∈ classes, .ofString decl.packageName = name) :
    ∃ decl ∈ classesAfter, .ofString decl.packageName = name := by
  obtain ⟨decl, member, rfl⟩ := held
  obtain ⟨index, chosen, isChosen⟩ := exists_isChosen member ⟨rfl, rfl⟩
  obtain ⟨indexAfter, chosenAfter⟩ := (alike _ _ chosen).mp ⟨index, isChosen⟩
  exact ⟨chosen, chosenAfter.mem, congrArg _ chosenAfter.isAt.1⟩

theorem ChosenAlike.type?_eq_some (alike : ChosenAlike classes classesAfter)
    (source sourceAfter : CodePoints) {package name : CodePoints} {decl : ClassDecl}
    (found : (Surface.mk source (groupByPackage classes)).type? package name = some decl) :
    (Surface.mk sourceAfter (groupByPackage classesAfter)).type? package name = some decl := by
  have names := names_of_type?_groupByPackage found
  rw [names.1, names.2, type?_groupByPackage_eq_some_iff] at found ⊢
  exact (alike _ _ decl).mp found

/-- What is not chosen cannot be seen. -/
theorem ChosenAlike.holdsAlike (alike : ChosenAlike classes classesAfter)
    (source sourceAfter : CodePoints) :
    (Surface.mk source (groupByPackage classes)).HoldsAlike
      ⟨sourceAfter, groupByPackage classesAfter⟩ where
  packages := by
    intro name
    rw [Bool.eq_iff_iff, isSome_package?_groupByPackage, isSome_package?_groupByPackage]
    exact ⟨alike.exists_packageName, alike.symm.exists_packageName⟩
  types := fun package name => Option.ext fun decl =>
    ⟨alike.type?_eq_some source sourceAfter, alike.symm.type?_eq_some sourceAfter source⟩

theorem exists_name_eq_of_names {first second : List ClassDecl}
    (names : first.map ClassDecl.name = second.map ClassDecl.name) {index : Nat} {decl : ClassDecl}
    (given : first[index]? = some decl) :
    ∃ other, second[index]? = some other ∧ other.name = decl.name := by
  have sameName := congrArg (·[index]?) names
  simp only [List.getElem?_map, given, Option.map_some] at sameName
  obtain ⟨other, isOther, same⟩ := Option.map_eq_some_iff.mp sameName.symm
  exact ⟨other, isOther, same⟩

/-- The choice looks at names only. -/
theorem DifferInOthers.isChosen (differ : DifferInOthers classes classesAfter)
    {package simple : String} {index : Nat} {decl : ClassDecl}
    (chosen : IsChosen classes package simple index decl) :
    IsChosen classesAfter package simple index decl where
  given := differ.kept _ _ _ _ chosen
  isAt := chosen.isAt
  least := by
    intro other member isAt
    obtain ⟨place, given⟩ := List.getElem?_of_mem member
    obtain ⟨before, isBefore, same⟩ := exists_name_eq_of_names differ.names.symm given
    rw [← same]
    exact chosen.least before (List.mem_of_getElem? isBefore) (ClassDecl.isAt_of_name_eq same.symm isAt)
  earliest := by
    intro earlier isEarlier other given
    obtain ⟨before, isBefore, same⟩ := exists_name_eq_of_names differ.names.symm given
    rw [← same]
    exact chosen.earliest earlier isEarlier before isBefore

theorem DifferInOthers.chosenAlike (differ : DifferInOthers classes classesAfter) :
    ChosenAlike classes classesAfter := by
  intro package simple decl
  constructor
  · rintro ⟨index, chosen⟩
    exact ⟨index, differ.isChosen chosen⟩
  · rintro ⟨index, chosen⟩
    -- `kept` speaks of the first list only: what was chosen there is chosen of both, and there is but one.
    obtain ⟨before, isBefore, same⟩ := exists_name_eq_of_names differ.names.symm chosen.given
    obtain ⟨place, first, isChosen⟩ := exists_isChosen (List.mem_of_getElem? isBefore)
      (ClassDecl.isAt_of_name_eq same.symm chosen.isAt)
    obtain rfl := chosen.unique (differ.isChosen isChosen)
    exact ⟨place, isChosen⟩

end Alike

/-! ## Comparisons of grouped classes -/

namespace Comparison

/-- Lists of classes that no comparison tells apart, on whichever side they stand. -/
def ComparedAlike (classes classesAfter : List ClassDecl) : Prop :=
  ∀ (source sourceAfter : CodePoints) (other : Surface),
    ReportsAlike ⟨source, groupByPackage classes⟩ other ⟨sourceAfter, groupByPackage classesAfter⟩
        other ∧
      ReportsAlike other ⟨source, groupByPackage classes⟩ other
        ⟨sourceAfter, groupByPackage classesAfter⟩

theorem ChosenAlike.comparedAlike {classes classesAfter : List ClassDecl}
    (alike : ChosenAlike classes classesAfter) : ComparedAlike classes classesAfter :=
  fun source sourceAfter other =>
    ⟨reportsAlike_of_holdsAlike (alike.holdsAlike source sourceAfter) (.refl other),
      reportsAlike_of_holdsAlike (.refl other) (alike.holdsAlike source sourceAfter)⟩

/-- What becomes of the classes that share a package and a simple name. -/
structure DuplicatesSettled (classes : List ClassDecl) : Prop where
  found : ∀ source package simple decl,
    (Surface.mk source (groupByPackage classes)).type? (.ofString package) (.ofString simple) =
        some decl ↔
      ∃ index, IsChosen classes package simple index decl
  onLeft : ∀ source right package simple first second,
    TakePart ⟨source, groupByPackage classes⟩ right package simple (first, second) ↔
      (∃ index, IsChosen classes package simple index first) ∧
        right.type? (.ofString package) (.ofString simple) = some second
  onRight : ∀ left source package simple first second,
    TakePart left ⟨source, groupByPackage classes⟩ package simple (first, second) ↔
      left.type? (.ofString package) (.ofString simple) = some first ∧
        ∃ index, IsChosen classes package simple index second
  firstRead : ∀ package simple index decl, IsChosen classes package simple index decl →
    classes.find? (fun other => other.name = decl.name) = some decl
  othersIgnored : ∀ classesAfter, ChosenAlike classes classesAfter →
    ComparedAlike classes classesAfter
  contentsIgnored : ∀ classesAfter, DifferInOthers classes classesAfter →
    ComparedAlike classes classesAfter

/-- **Which of several classes is compared.** Under a package name and a simple name a comparison sees
the class that was read first among those with the least name, on either side, and nothing that the
others hold makes a difference to an entry or a counter. -/
theorem grouped_duplicates_settled (classes : List ClassDecl) : DuplicatesSettled classes where
  found source := type?_groupByPackage_eq_some_iff source classes
  onLeft source right package simple first second := by
    rw [takePart_iff, type?_groupByPackage_eq_some_iff]
  onRight left source package simple first second := by
    rw [takePart_iff, type?_groupByPackage_eq_some_iff]
  firstRead package simple index decl chosen :=
    ((exists_isChosen_iff classes package simple decl).mp ⟨index, chosen⟩).2.2
  othersIgnored _ alike := ChosenAlike.comparedAlike alike
  contentsIgnored _ differ := ChosenAlike.comparedAlike differ.chosenAlike

def slashed (accessFlags : Int) : ClassDecl :=
  { name := "a/b/C", accessFlags, name_ne_empty := by decide }

def dotted (accessFlags : Int) : ClassDecl :=
  { name := "a.b/C", accessFlags, name_ne_empty := by decide }

/-- Three classes under one package name and one simple name, the last two with one name. -/
def sharing (accessFlags : Int) : List ClassDecl :=
  [slashed accessFlags, dotted 0, dotted accessFlags]

theorem isAt_sharing (accessFlags : Int) : ∀ decl ∈ sharing accessFlags, decl.IsAt "a.b" "C" := by
  intro decl member
  have name : decl.name = "a/b/C" ∨ decl.name = "a.b/C" := by
    simp only [sharing, List.mem_cons, List.not_mem_nil, or_false] at member
    rcases member with rfl | rfl | rfl <;> simp [slashed, dotted]
  have slashedIsAt : (slashed 0).IsAt "a.b" "C" := by decide +kernel
  have dottedIsAt : (dotted 0).IsAt "a.b" "C" := by decide +kernel
  rcases name with isSlashed | isDotted
  · exact ClassDecl.isAt_of_name_eq isSlashed.symm slashedIsAt
  · exact ClassDecl.isAt_of_name_eq isDotted.symm dottedIsAt

theorem isChosen_sharing (accessFlags : Int) :
    IsChosen (sharing accessFlags) "a.b" "C" 1 (dotted 0) where
  given := rfl
  isAt := isAt_sharing accessFlags _ (by simp [sharing])
  least := by
    intro other member _
    simp only [sharing, List.mem_cons, List.not_mem_nil, or_false] at member
    rcases member with rfl | rfl | rfl
    · show "a.b/C" ≤ "a/b/C"
      decide +kernel
    · exact String.le_refl "a.b/C"
    · exact String.le_refl "a.b/C"
  earliest := by
    intro earlier before other given
    obtain rfl : earlier = 0 := by omega
    cases given
    show "a/b/C" ≠ "a.b/C"
    decide +kernel

theorem differInOthers_sharing : DifferInOthers (sharing 1) (sharing 2) where
  names := rfl
  kept := by
    intro package simple index decl chosen
    -- All three classes lie at one place, so there is one chosen class, and it stands at one index.
    obtain ⟨rfl, rfl⟩ := chosen.isAt
    obtain ⟨atPackage, atSimple⟩ := isAt_sharing 1 decl chosen.mem
    rw [atPackage, atSimple] at chosen
    obtain rfl := chosen.unique (isChosen_sharing 1)
    have given := chosen.given
    match index with
    | 1 => rfl
    | 0 => exact absurd given (by decide +kernel)
    | 2 => exact absurd given (by decide +kernel)
    | index + 3 => cases given

theorem grouped_duplicates_settled_sharing :
    IsChosen (sharing 1) "a.b" "C" 1 (dotted 0) ∧ DifferInOthers (sharing 1) (sharing 2) ∧
      ComparedAlike (sharing 1) (sharing 2) :=
  ⟨isChosen_sharing 1, differInOthers_sharing,
    (grouped_duplicates_settled (sharing 1)).contentsIgnored (sharing 2) differInOthers_sharing⟩

end Comparison

end SurfaceDiff
