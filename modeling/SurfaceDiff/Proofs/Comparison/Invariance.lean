import SurfaceDiff.Proofs.Comparison.Congruence

/-!
Contract: changes of two surfaces that a comparison does not notice.

Owns: `Surface.Rearranged`, and the theorem that rearranged surfaces give the same report and the same
summary; the case of distinct keys, in which any permutation is a rearrangement.
Does not own: the log of a comparison, which names the items that were left out.

Each level is rearranged by itself: methods inside their type, types inside their package, packages.
The proof goes the same way, from the methods up.
-/

namespace SurfaceDiff

open Text

/-! ## Rearranged surfaces -/

/-- The methods that take part are rearranged; all others are free, and so is the superclass. -/
structure ClassDecl.Rearranged (first second : ClassDecl) : Prop where
  name : first.name = second.name
  accessFlags : first.accessFlags = second.accessFlags
  methods : Rearrangement Method.key Eq (Comparison.comparedMethods first)
    (Comparison.comparedMethods second)

structure Package.Rearranged (first second : Package) : Prop where
  name : first.name = second.name
  types : Rearrangement ClassDecl.key ClassDecl.Rearranged first.types second.types

def Surface.Rearranged (first second : Surface) : Prop :=
  Rearrangement Package.key Package.Rearranged first.packages second.packages

theorem Rearrangement.refl {α : Type} {key : α → CodePoints} {Same : α → α → Prop} (items : List α) :
    Rearrangement key Same items items :=
  .reorder (.refl items) fun _ => rfl

theorem ClassDecl.Rearranged.refl (decl : ClassDecl) : decl.Rearranged decl :=
  ⟨rfl, rfl, .refl _⟩

theorem ClassDecl.Rearranged.trans {first second third : ClassDecl}
    (before : first.Rearranged second) (after : second.Rearranged third) :
    first.Rearranged third where
  name := before.name.trans after.name
  accessFlags := before.accessFlags.trans after.accessFlags
  methods := before.methods.trans after.methods

theorem Package.Rearranged.refl (package : Package) : package.Rearranged package :=
  ⟨rfl, .refl _⟩

theorem Package.Rearranged.trans {first second third : Package}
    (before : first.Rearranged second) (after : second.Rearranged third) :
    first.Rearranged third where
  name := before.name.trans after.name
  types := before.types.trans after.types

theorem ClassDecl.Rearranged.firstsAgree {first second : ClassDecl}
    (rearranged : first.Rearranged second) :
    FirstsAgree Method.key Eq (Comparison.comparedMethods first)
      (Comparison.comparedMethods second) :=
  rearranged.methods.firstsAgree Eq.refl Eq.trans

theorem Package.Rearranged.firstsAgree {first second : Package}
    (rearranged : first.Rearranged second) :
    FirstsAgree ClassDecl.key ClassDecl.Rearranged first.types second.types :=
  rearranged.types.firstsAgree ClassDecl.Rearranged.refl ClassDecl.Rearranged.trans

theorem Surface.Rearranged.firstsAgree {first second : Surface}
    (rearranged : first.Rearranged second) :
    FirstsAgree Package.key Package.Rearranged first.packages second.packages :=
  Rearrangement.firstsAgree Package.Rearranged.refl Package.Rearranged.trans rearranged

namespace Comparison

/-! ## What a comparison finds in them -/

/-- Both types of a pair are rearranged. -/
def TypesRearranged (types typesAfter : ClassDecl × ClassDecl) : Prop :=
  types.1.Rearranged typesAfter.1 ∧ types.2.Rearranged typesAfter.2

def PackagesRearranged (packages packagesAfter : Package × Package) : Prop :=
  packages.1.Rearranged packagesAfter.1 ∧ packages.2.Rearranged packagesAfter.2

theorem matchedMethods_rearranged {types typesAfter : ClassDecl × ClassDecl}
    (rearranged : TypesRearranged types typesAfter) :
    matchedMethods types = matchedMethods typesAfter := by
  have common := common_of_firstsAgree rearranged.1.firstsAgree rearranged.2.firstsAgree
  have equal : List.Forall₂ Eq (matchedMethods types) (matchedMethods typesAfter) :=
    common.imp fun _ _ same => Prod.ext same.1 same.2
  rwa [List.forall₂_eq_eq_eq] at equal

theorem typeFindings_rearranged {types typesAfter : ClassDecl × ClassDecl}
    (rearranged : TypesRearranged types typesAfter) (detectChanges : Bool) (package : CodePoints) :
    typeFindings detectChanges package types = typeFindings detectChanges package typesAfter := by
  have sameFlag : types.1.isEnum = typesAfter.1.isEnum := by
    unfold ClassDecl.isEnum
    rw [rearranged.1.accessFlags]
  have bodies : bodyKeys detectChanges types .changed = bodyKeys detectChanges typesAfter .changed := by
    simp only [bodyKeys, sameFlag, matchedMethods_rearranged rearranged]
  exact typeFindings_congr rearranged.1.name rearranged.1.firstsAgree rearranged.2.firstsAgree bodies
    package

theorem matchedTypes_rearranged {packages packagesAfter : Package × Package}
    (rearranged : PackagesRearranged packages packagesAfter) :
    List.Forall₂ TypesRearranged (matchedTypes packages) (matchedTypes packagesAfter) :=
  common_of_firstsAgree rearranged.1.firstsAgree rearranged.2.firstsAgree

theorem packageFindings_rearranged {packages packagesAfter : Package × Package}
    (rearranged : PackagesRearranged packages packagesAfter) (detectChanges : Bool) :
    packageFindings detectChanges packages = packageFindings detectChanges packagesAfter :=
  packageFindings_congr rearranged.1.name rearranged.1.firstsAgree rearranged.2.firstsAgree
    fun _ _ _ isLeft isRight => typeFindings_rearranged ⟨isLeft, isRight⟩ detectChanges _

section Surfaces

variable {left leftAfter right rightAfter : Surface}

theorem matchedPackages_rearranged (isLeft : left.Rearranged leftAfter)
    (isRight : right.Rearranged rightAfter) :
    List.Forall₂ PackagesRearranged (matchedPackages left right)
      (matchedPackages leftAfter rightAfter) :=
  common_of_firstsAgree isLeft.firstsAgree isRight.firstsAgree

theorem visitedTypes_rearranged (isLeft : left.Rearranged leftAfter)
    (isRight : right.Rearranged rightAfter) :
    List.Forall₂ TypesRearranged (visitedTypes left right) (visitedTypes leftAfter rightAfter) :=
  List.rel_flatMap (matchedPackages_rearranged isLeft isRight) fun _ _ => matchedTypes_rearranged

theorem visitedMethods_rearranged (isLeft : left.Rearranged leftAfter)
    (isRight : right.Rearranged rightAfter) :
    visitedMethods left right = visitedMethods leftAfter rightAfter :=
  flatMap_of_forall₂ (visitedTypes_rearranged isLeft isRight) fun _ _ _ => matchedMethods_rearranged

theorem findings_rearranged (isLeft : left.Rearranged leftAfter)
    (isRight : right.Rearranged rightAfter) (detectChanges : Bool) :
    findings detectChanges left right = findings detectChanges leftAfter rightAfter :=
  findings_congr isLeft.firstsAgree isRight.firstsAgree
    fun _ _ _ leftAgrees rightAgrees => packageFindings_rearranged ⟨leftAgrees, rightAgrees⟩ detectChanges

end Surfaces

end Comparison

/-! ## Permuted surfaces -/

/-- The type with its methods in another order. -/
structure ClassDecl.Permuted (first second : ClassDecl) : Prop where
  name : first.name = second.name
  accessFlags : first.accessFlags = second.accessFlags
  methods : first.methods.Perm second.methods

/-- The package with its types in another order, each permuted itself. -/
structure Package.Permuted (first second : Package) : Prop where
  name : first.name = second.name
  types : ∃ moved, first.types.Perm moved ∧ List.Forall₂ ClassDecl.Permuted moved second.types

def Surface.Permuted (first second : Surface) : Prop :=
  ∃ moved, first.packages.Perm moved ∧ List.Forall₂ Package.Permuted moved second.packages

def ClassDecl.HasDistinctKeys (decl : ClassDecl) : Prop :=
  ((Comparison.comparedMethods decl).map Method.key).Nodup

instance (decl : ClassDecl) : Decidable decl.HasDistinctKeys := by
  unfold ClassDecl.HasDistinctKeys
  infer_instance

structure Package.HasDistinctKeys (package : Package) : Prop where
  types : (package.types.map ClassDecl.key).Nodup
  methods : ∀ decl ∈ package.types, decl.HasDistinctKeys

/-- No two packages, no two types of a package and no two methods of a type share a key. -/
structure Surface.HasDistinctKeys (surface : Surface) : Prop where
  packages : (surface.packages.map Package.key).Nodup
  types : ∀ package ∈ surface.packages, package.HasDistinctKeys

theorem Rearrangement.of_perm {α : Type} {key : α → CodePoints} {Same : α → α → Prop}
    {first moved second : List α} (distinct : (first.map key).Nodup) (perm : first.Perm moved)
    (same : List.Forall₂ (fun item other => key item = key other ∧ Same item other) moved second) :
    Rearrangement key Same first second :=
  .trans (.reorder perm (filter_eq_of_perm distinct perm)) (.within same)

theorem ClassDecl.Permuted.rearranged {first second : ClassDecl} (distinct : first.HasDistinctKeys)
    (permuted : first.Permuted second) : first.Rearranged second where
  name := permuted.name
  accessFlags := permuted.accessFlags
  methods := by
    have perm : (Comparison.comparedMethods first).Perm (Comparison.comparedMethods second) :=
      permuted.methods.filter _
    exact .reorder perm (filter_eq_of_perm distinct perm)

theorem Package.Permuted.rearranged {first second : Package} (distinct : first.HasDistinctKeys)
    (permuted : first.Permuted second) : first.Rearranged second where
  name := permuted.name
  types := by
    obtain ⟨moved, perm, inside⟩ := permuted.types
    have members : ∀ decl ∈ moved, decl.HasDistinctKeys :=
      fun decl isMoved => distinct.methods decl (perm.mem_iff.mpr isMoved)
    refine .of_perm distinct.types perm
      (((List.forall₂_and_left _ _).mpr ⟨members, inside⟩).imp fun decl other both => ?_)
    have sameKey : decl.key = other.key := by
      unfold ClassDecl.key ClassDecl.simpleName
      rw [both.2.name]
    exact ⟨sameKey, both.2.rearranged both.1⟩

theorem Surface.Permuted.rearranged {first second : Surface} (distinct : first.HasDistinctKeys)
    (permuted : first.Permuted second) : first.Rearranged second := by
  obtain ⟨moved, perm, inside⟩ := permuted
  have members : ∀ package ∈ moved, package.HasDistinctKeys :=
    fun package isMoved => distinct.types package (perm.mem_iff.mpr isMoved)
  refine .of_perm distinct.packages perm
    (((List.forall₂_and_left _ _).mpr ⟨members, inside⟩).imp fun package other both => ?_)
  exact ⟨both.2.name, both.2.rearranged both.1⟩

namespace Comparison

/-! ## Comparisons that report alike -/

/-- No sink can tell the comparisons apart, and they count the same, with or without bodies. -/
def ReportsAlike (left right leftAfter rightAfter : Surface) : Prop :=
  ∀ {σ : Type} (plan : Plan σ) (state : σ),
    (Surface.compare plan state leftAfter rightAfter).state =
        (Surface.compare plan state left right).state ∧
      (Surface.compare plan state leftAfter rightAfter).summary =
        (Surface.compare plan state left right).summary

/-- What comparisons find, and how far they go, is all that a sink and the counters depend on. -/
theorem reportsAlike_of_findings {left leftAfter right rightAfter : Surface}
    (found : ∀ detectChanges, findings detectChanges left right =
      findings detectChanges leftAfter rightAfter)
    (packages : (matchedPackages left right).length = (matchedPackages leftAfter rightAfter).length)
    (types : (visitedTypes left right).length = (visitedTypes leftAfter rightAfter).length)
    (methods : (visitedMethods left right).length = (visitedMethods leftAfter rightAfter).length) :
    ReportsAlike left right leftAfter rightAfter := by
  intro σ plan state
  constructor
  · rw [state_compare, state_compare, found]
  · rw [summary_compare, summary_compare, after_ofSurfaces_congr packages types methods (found _)]

theorem reportsAlike_of_rearranged {left leftAfter right rightAfter : Surface}
    (isLeft : left.Rearranged leftAfter) (isRight : right.Rearranged rightAfter) :
    ReportsAlike left right leftAfter rightAfter :=
  reportsAlike_of_findings (findings_rearranged isLeft isRight)
    (matchedPackages_rearranged isLeft isRight).length_eq
    (visitedTypes_rearranged isLeft isRight).length_eq
    (congrArg List.length (visitedMethods_rearranged isLeft isRight))

/-- Order and later duplicates do not matter to a comparison; and where keys are distinct, no order
does. -/
theorem compare_rearranged (left leftAfter right rightAfter : Surface) :
    (left.Rearranged leftAfter → right.Rearranged rightAfter →
      ReportsAlike left right leftAfter rightAfter) ∧
    (left.HasDistinctKeys → right.HasDistinctKeys → left.Permuted leftAfter →
      right.Permuted rightAfter → ReportsAlike left right leftAfter rightAfter) := by
  refine ⟨reportsAlike_of_rearranged, ?_⟩
  intro leftDistinct rightDistinct leftPermuted rightPermuted
  exact reportsAlike_of_rearranged (leftPermuted.rearranged leftDistinct)
    (rightPermuted.rearranged rightDistinct)

/-- A class `p.Job` with these methods, and a package `q` before or behind `p`. -/
def arranged (packagesSwapped : Bool) (methods : List Method) : Surface :=
  let inside : Package := ⟨.ofString "p", [{ name := "p/Job", methods, name_ne_empty := by decide }]⟩
  let empty : Package := ⟨.ofString "q", []⟩
  { packages := if packagesSwapped then [empty, inside] else [inside, empty] }

def runMethod : Method := ⟨.ofString "run", .ofString "()V", 0, some [0xB1]⟩

def stopMethod : Method := ⟨.ofString "stop", .ofString "()V", 0, some [0xB1]⟩

/-- A later method of the key of `run`, without its body. -/
def laterRun : Method := ⟨.ofString "run", .ofString "()V", 0, none⟩

def bridgeMethod : Method := ⟨.ofString "access$0", .ofString "()V", 0, none⟩

theorem arranged_hasDistinctKeys : (arranged false [runMethod, stopMethod]).HasDistinctKeys where
  packages := by decide
  types := by
    intro package isPackage
    rcases List.mem_pair.mp isPackage with rfl | rfl
    · exact ⟨by decide, fun decl isType => List.mem_singleton.mp isType ▸ by decide⟩
    · exact ⟨by decide, nofun⟩

theorem arranged_permuted :
    (arranged false [runMethod, stopMethod]).Permuted (arranged true [stopMethod, runMethod]) := by
  refine ⟨(arranged true [runMethod, stopMethod]).packages, .swap _ _ _, .cons ?_ (.cons ?_ .nil)⟩
  · exact ⟨rfl, [], .refl _, .nil⟩
  · exact ⟨rfl, _, .refl _, .cons ⟨rfl, rfl, .swap _ _ _⟩ .nil⟩

theorem arranged_rearranged :
    (arranged true [stopMethod, runMethod]).Rearranged
      (arranged true [stopMethod, bridgeMethod, runMethod, laterRun]) := by
  have isEarlier : runMethod ∈ [stopMethod, runMethod] := by decide
  have methods : Rearrangement Method.key Eq ([stopMethod, runMethod] ++ [])
      ([stopMethod, runMethod] ++ [laterRun]) := .insert isEarlier rfl
  refine .within (.cons ⟨rfl, .refl _⟩ (.cons ⟨rfl, rfl, ?_⟩ .nil))
  exact .within (.cons ⟨rfl, rfl, rfl, methods⟩ .nil)

theorem compare_rearranged_arranged :
    ReportsAlike (arranged true [stopMethod, runMethod]) (arranged false [laterRun])
        (arranged true [stopMethod, bridgeMethod, runMethod, laterRun]) (arranged false [laterRun]) ∧
      ReportsAlike (arranged false [runMethod, stopMethod]) (arranged false [runMethod, stopMethod])
        (arranged true [stopMethod, runMethod]) (arranged true [stopMethod, runMethod]) :=
  ⟨(compare_rearranged _ _ _ _).1 arranged_rearranged (.refl _),
    (compare_rearranged _ _ _ _).2 arranged_hasDistinctKeys arranged_hasDistinctKeys
      arranged_permuted arranged_permuted⟩

end Comparison

end SurfaceDiff
