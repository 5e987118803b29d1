import SurfaceDiff.Comparison
import SurfaceDiff.Proofs.Reconciliation

/-!
Contract: finding the packages, types and methods of a surface by key.

Owns: the look-ups, in which the first of several candidates counts, and the pairs that each level
of a comparison goes on with, as look-ups on both sides.
Does not own: what a comparison reports.
-/

namespace SurfaceDiff

open Text

def Surface.package? (surface : Surface) (name : CodePoints) : Option Package :=
  surface.packages.find? fun package => package.key = name

def Package.type? (package : Package) (name : CodePoints) : Option ClassDecl :=
  package.types.find? fun decl => decl.key = name

/-- Methods that the compiler made up are never found. -/
def ClassDecl.method? (decl : ClassDecl) (key : CodePoints) : Option Method :=
  decl.methods.find? fun method => ¬method.IsSynthetic ∧ method.key = key

def Surface.type? (surface : Surface) (package name : CodePoints) : Option ClassDecl :=
  (surface.package? package).bind fun package => package.type? name

theorem Surface.type?_eq_some_iff (surface : Surface) (package name : CodePoints)
    (decl : ClassDecl) :
    surface.type? package name = some decl ↔
      ∃ holder, surface.package? package = some holder ∧ holder.type? name = some decl :=
  Option.bind_eq_some_iff

theorem Surface.type?_of_package? {surface : Surface} {package : CodePoints} {holder : Package}
    (found : surface.package? package = some holder) (name : CodePoints) :
    surface.type? package name = holder.type? name := by
  rw [type?, found, Option.bind_some]

theorem Package.key_of_package? {surface : Surface} {name : CodePoints} {package : Package}
    (found : surface.package? name = some package) : package.key = name :=
  key_of_firstWithKey found

theorem ClassDecl.key_of_type? {package : Package} {name : CodePoints} {decl : ClassDecl}
    (found : package.type? name = some decl) : decl.key = name :=
  key_of_firstWithKey found

theorem Surface.key_of_type? {surface : Surface} {package name : CodePoints} {decl : ClassDecl}
    (found : surface.type? package name = some decl) : decl.key = name := by
  obtain ⟨_, _, inside⟩ := (surface.type?_eq_some_iff package name decl).mp found
  exact ClassDecl.key_of_type? inside

theorem ClassDecl.method?_eq_firstWithKey (decl : ClassDecl) (key : CodePoints) :
    decl.method? key = firstWithKey Method.key (Comparison.comparedMethods decl) key := by
  simp [method?, firstWithKey, Comparison.comparedMethods, List.find?_filter]

theorem ClassDecl.key_of_method? {decl : ClassDecl} {key : CodePoints} {method : Method}
    (found : decl.method? key = some method) : method.key = key := by
  rw [method?_eq_firstWithKey] at found
  exact key_of_firstWithKey found

/-! ## The pairs of a comparison -/

namespace Comparison

theorem mem_commonPackages (left right : Surface) (first second : Package) :
    (first, second) ∈ (reconcile Package.key left.packages right.packages).result.common ↔
      left.package? first.key = some first ∧ right.package? first.key = some second :=
  mem_common Package.key left.packages right.packages first second

theorem mem_commonTypes (left right : Package) (first second : ClassDecl) :
    (first, second) ∈ (reconcile ClassDecl.key left.types right.types).result.common ↔
      left.type? first.key = some first ∧ right.type? first.key = some second :=
  mem_common ClassDecl.key left.types right.types first second

theorem mem_commonMethods (left right : ClassDecl) (first second : Method) :
    (first, second) ∈
        (reconcile Method.key (comparedMethods left) (comparedMethods right)).result.common ↔
      left.method? first.key = some first ∧ right.method? first.key = some second := by
  rw [mem_common, ClassDecl.method?_eq_firstWithKey, ClassDecl.method?_eq_firstWithKey]

/-- The changed methods are among the methods of both sides, in their order. -/
theorem changedKeys_sublist (pairs : List (Method × Method)) :
    (changedKeys pairs).Sublist (pairs.map fun pair => pair.1.key) :=
  List.filter_sublist.map _

theorem changedKeys_increasing (left right : List Method) :
    CodePoints.Increasing (changedKeys (reconcile Method.key left right).result.common) :=
  (common_increasing Method.key left right).sublist (changedKeys_sublist _)

end Comparison

end SurfaceDiff
