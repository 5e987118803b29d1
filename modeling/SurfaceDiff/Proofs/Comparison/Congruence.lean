import SurfaceDiff.Proofs.Comparison.Reports
import SurfaceDiff.Proofs.Rearrangement

/-!
Contract: when two comparisons find the same.

Owns: one law per level, by which a level finds the same if its first items correspond and the level
below finds the same in those that do; and the same law for the counters.
Does not own: any particular correspondence. The items of the left and those of the right side may
correspond in different ways.
-/

namespace SurfaceDiff.Comparison

open Text

theorem levelFindings_of_firstsAgree {α : Type} {key : α → CodePoints}
    {SameLeft SameRight : α → α → Prop} {left leftAfter right rightAfter : List α}
    (isLeft : FirstsAgree key SameLeft left leftAfter)
    (isRight : FirstsAgree key SameRight right rightAfter) (place : Place) (level : CodePoints) :
    levelFindings place level key left right = levelFindings place level key leftAfter rightAfter := by
  unfold levelFindings Reconciliation.entries
  rw [removed_of_firstsAgree isLeft isRight, added_of_firstsAgree isLeft isRight]

/-- Lists that correspond item by item yield the same, if corresponding items do. -/
theorem flatMap_of_forall₂ {α β : Type} {Related : α → α → Prop} {first second : List α}
    {yield : α → List β} (related : List.Forall₂ Related first second)
    (same : ∀ item ∈ first, ∀ other, Related item other → yield item = yield other) :
    first.flatMap yield = second.flatMap yield := by
  induction related with
  | nil => rfl
  | cons head _ inductionHypothesis =>
      obtain ⟨sameHead, sameRest⟩ := List.forall_mem_cons.mp same
      rw [List.flatMap_cons, List.flatMap_cons, sameHead _ head, inductionHypothesis sameRest]

/-! ## Types -/

theorem bodyFindings_eq (detectChanges : Bool) (place : Place) (types : ClassDecl × ClassDecl) :
    bodyFindings detectChanges place types.1 (matchedMethods types) =
      (Reconciliation.entry? (bodiesLevel types.1) .changed
        (bodyKeys detectChanges types .changed)).map (Finding.mk place) := by
  unfold bodyFindings bodyKeys
  split
  case isTrue => rfl
  case isFalse => rfl

theorem typeFindings_congr {SameLeft SameRight : Method → Method → Prop} {detectChanges : Bool}
    {types typesAfter : ClassDecl × ClassDecl} (sameName : types.1.name = typesAfter.1.name)
    (isLeft : FirstsAgree Method.key SameLeft (comparedMethods types.1) (comparedMethods typesAfter.1))
    (isRight : FirstsAgree Method.key SameRight (comparedMethods types.2)
      (comparedMethods typesAfter.2))
    (bodies : bodyKeys detectChanges types .changed = bodyKeys detectChanges typesAfter .changed)
    (package : CodePoints) :
    typeFindings detectChanges package types = typeFindings detectChanges package typesAfter := by
  have sameKey : types.1.key = typesAfter.1.key := by
    unfold ClassDecl.key ClassDecl.simpleName
    rw [sameName]
  have sameLevel : methodsLevel types.1 = methodsLevel typesAfter.1 := by
    unfold methodsLevel ClassDecl.qualifiedName
    rw [sameName]
  have sameBodies : bodiesLevel types.1 = bodiesLevel typesAfter.1 := by
    unfold bodiesLevel ClassDecl.qualifiedName
    rw [sameName]
  have level := levelFindings_of_firstsAgree isLeft isRight (.methods package types.1.key)
    (methodsLevel types.1)
  have body := bodyFindings_eq detectChanges (.methods package types.1.key) types
  have bodyAfter := bodyFindings_eq detectChanges (.methods package typesAfter.1.key) typesAfter
  unfold matchedMethods at body bodyAfter
  simp only [typeFindings]
  rw [body, bodyAfter, level, bodies, sameKey, sameLevel, sameBodies]

/-! ## Packages -/

theorem packageFindings_congr {SameLeft SameRight : ClassDecl → ClassDecl → Prop}
    {detectChanges : Bool} {packages packagesAfter : Package × Package}
    (sameName : packages.1.name = packagesAfter.1.name)
    (isLeft : FirstsAgree ClassDecl.key SameLeft packages.1.types packagesAfter.1.types)
    (isRight : FirstsAgree ClassDecl.key SameRight packages.2.types packagesAfter.2.types)
    (inside : ∀ types ∈ matchedTypes packages, ∀ typesAfter : ClassDecl × ClassDecl,
      SameLeft types.1 typesAfter.1 → SameRight types.2 typesAfter.2 →
      typeFindings detectChanges packages.1.key types =
        typeFindings detectChanges packages.1.key typesAfter) :
    packageFindings detectChanges packages = packageFindings detectChanges packagesAfter := by
  have sameKey : packages.1.key = packagesAfter.1.key := sameName
  have sameLevel : typesLevel packages.1 = typesLevel packagesAfter.1 := by
    unfold typesLevel
    rw [sameName]
  have level := levelFindings_of_firstsAgree isLeft isRight (.types packages.1.key)
    (typesLevel packages.1)
  have types : (matchedTypes packages).flatMap (typeFindings detectChanges packages.1.key) =
      (matchedTypes packagesAfter).flatMap (typeFindings detectChanges packages.1.key) :=
    flatMap_of_forall₂ (common_of_firstsAgree isLeft isRight)
      fun types isCommon typesAfter same => inside types isCommon typesAfter same.1 same.2
  unfold matchedTypes at types
  simp only [packageFindings]
  rw [level, types, sameKey, sameLevel]

/-! ## Surfaces -/

section Surfaces

variable {SameLeft SameRight : Package → Package → Prop} {detectChanges : Bool}
  {left leftAfter right rightAfter : Surface}

theorem findings_congr (isLeft : FirstsAgree Package.key SameLeft left.packages leftAfter.packages)
    (isRight : FirstsAgree Package.key SameRight right.packages rightAfter.packages)
    (inside : ∀ packages ∈ matchedPackages left right, ∀ packagesAfter : Package × Package,
      SameLeft packages.1 packagesAfter.1 → SameRight packages.2 packagesAfter.2 →
      packageFindings detectChanges packages = packageFindings detectChanges packagesAfter) :
    findings detectChanges left right = findings detectChanges leftAfter rightAfter := by
  have level := levelFindings_of_firstsAgree isLeft isRight .packages packagesLevel
  have packages : (matchedPackages left right).flatMap (packageFindings detectChanges) =
      (matchedPackages leftAfter rightAfter).flatMap (packageFindings detectChanges) :=
    flatMap_of_forall₂ (common_of_firstsAgree isLeft isRight)
      fun packages isCommon packagesAfter same =>
        inside packages isCommon packagesAfter same.1 same.2
  unfold matchedPackages at packages
  unfold findings
  rw [level, packages]

/-- The counters depend on what a comparison goes through only by the lengths of the lists. -/
theorem after_ofSurfaces_congr
    (packages : (matchedPackages left right).length = (matchedPackages leftAfter rightAfter).length)
    (types : (visitedTypes left right).length = (visitedTypes leftAfter rightAfter).length)
    (methods : (visitedMethods left right).length = (visitedMethods leftAfter rightAfter).length)
    (found : findings detectChanges left right = findings detectChanges leftAfter rightAfter) :
    ({} : Summary).after (.ofSurfaces detectChanges left right) =
      ({} : Summary).after (.ofSurfaces detectChanges leftAfter rightAfter) := by
  have entries : (Traversal.ofSurfaces detectChanges left right).entries =
      (Traversal.ofSurfaces detectChanges leftAfter rightAfter).entries :=
    congrArg (List.map Finding.entry) found
  unfold Summary.after
  rw [Traversal.packages_ofSurfaces, Traversal.packages_ofSurfaces, Traversal.types_ofSurfaces,
    Traversal.types_ofSurfaces, Traversal.methods_ofSurfaces, Traversal.methods_ofSurfaces,
    packages, types, methods, entries]

end Surfaces

end SurfaceDiff.Comparison
