import SurfaceDiff.Proofs.Comparison.Findings
import SurfaceDiff.Proofs.Comparison.Lookup

/-!
Contract: the order of the entries of a whole report.

Owns: the shape of a report as predicates on lists of entries, one for each level of the traversal,
and the theorem that every comparison makes a report of that shape.
Does not own: which items the entries hold.

The predicates know the two surfaces through look-ups only. That the keys of a level come in
increasing order, and that no entry is empty, is part of them.
-/

namespace SurfaceDiff.Comparison

open Text

/-! ## The shape of a report -/

/-- At most one entry: none without items, and one with all of them in increasing order. -/
inductive AtMostOne (level : CodePoints) (outcome : Outcome) : List CodePoints → List Entry → Prop where
  | absent : AtMostOne level outcome [] []
  | present {items : List CodePoints} (nonempty : items ≠ [])
    (increasing : CodePoints.Increasing items) :
    AtMostOne level outcome items [⟨level, outcome, items⟩]

/-- What was removed, then what was added; nothing is both. -/
inductive PresenceReport (level : CodePoints) : List CodePoints → List CodePoints → List Entry → Prop where
  | mk {removed added : List CodePoints} {first second : List Entry}
    (removal : AtMostOne level .removed removed first)
    (addition : AtMostOne level .added added second)
    (disjoint : ∀ key ∈ removed, key ∉ added) :
    PresenceReport level removed added (first ++ second)

/-- A report for each of the keys, one after the other. -/
inductive InTurn (Report : CodePoints → List Entry → Prop) : List CodePoints → List Entry → Prop where
  | nil : InTurn Report [] []
  | cons {key : CodePoints} {keys : List CodePoints} {first rest : List Entry}
    (head : Report key first) (tail : InTurn Report keys rest) :
    InTurn Report (key :: keys) (first ++ rest)

/-- Removed and added methods, then changed ones; no method is in two of the entries. -/
inductive TypeReport (left : ClassDecl) : List Entry → Prop where
  | mk {removed added changed : List CodePoints} {presence bodies : List Entry}
    (methods : PresenceReport (.ofString ("methods in class " ++ left.qualifiedName)) removed added
      presence)
    (changes : AtMostOne (.ofString ("methods in type " ++ left.qualifiedName)) .changed changed
      bodies)
    (removedApart : ∀ key ∈ removed, key ∉ changed) (addedApart : ∀ key ∈ added, key ∉ changed) :
    TypeReport left (presence ++ bodies)

/-- Removed and added types, then a report for each type of both packages. -/
inductive PackageReport (left right : Package) : List Entry → Prop where
  | mk {removed added names : List CodePoints} {presence rest : List Entry}
    (types : PresenceReport (.ofString "classes in package " ++ left.name) removed added presence)
    (increasing : CodePoints.Increasing names)
    (common : ∀ name, name ∈ names ↔ (left.type? name).isSome ∧ (right.type? name).isSome)
    (reports : InTurn (fun name entries =>
      ∃ decl, left.type? name = some decl ∧ TypeReport decl entries) names rest) :
    PackageReport left right (presence ++ rest)

/-- Removed and added packages, then a report for each package of both surfaces. -/
inductive SurfaceReport (left right : Surface) : List Entry → Prop where
  | mk {removed added names : List CodePoints} {presence rest : List Entry}
    (packages : PresenceReport (.ofString "packages") removed added presence)
    (increasing : CodePoints.Increasing names)
    (common : ∀ name, name ∈ names ↔ (left.package? name).isSome ∧ (right.package? name).isSome)
    (reports : InTurn (fun name entries => ∃ first second, left.package? name = some first ∧
      right.package? name = some second ∧ PackageReport first second entries) names rest) :
    SurfaceReport left right (presence ++ rest)

/-! ## Each level has its shape -/

theorem atMostOne_entry (level : CodePoints) (outcome : Outcome) {items : List CodePoints}
    (increasing : CodePoints.Increasing items) :
    AtMostOne level outcome items (Reconciliation.entry? level outcome items) := by
  unfold Reconciliation.entry?
  split
  case isTrue empty => exact empty ▸ .absent
  case isFalse nonempty => exact .present nonempty increasing

theorem presenceReport_level {α : Type} (place : Place) (level : CodePoints) (key : α → CodePoints)
    (left right : List α) :
    PresenceReport level (reconcile key left right).result.removed
      (reconcile key left right).result.added
      ((levelFindings place level key left right).map Finding.entry) := by
  have entries : (levelFindings place level key left right).map Finding.entry =
      (reconcile key left right).result.entries level := by
    simp [levelFindings, Function.comp_def]
  rw [entries]
  exact .mk (atMostOne_entry level .removed (removed_increasing key left right))
    (atMostOne_entry level .added (added_increasing key left right))
    (fun _ isRemoved => not_mem_added_of_mem_removed key left right isRemoved)

theorem inTurn_flatMap {α : Type} {Report : CodePoints → List Entry → Prop} (key : α → CodePoints)
    (found : α → List Finding) (items : List α)
    (reports : ∀ item ∈ items, Report (key item) ((found item).map Finding.entry)) :
    InTurn Report (items.map key) ((items.flatMap found).map Finding.entry) := by
  induction items with
  | nil => exact .nil
  | cons item rest inductionHypothesis =>
      rw [List.map_cons, List.flatMap_cons, List.map_append]
      refine .cons (reports item (by simp)) (inductionHypothesis ?_)
      exact fun other member => reports other (List.mem_cons_of_mem item member)

/-- The changed methods of a type, if bodies are compared, are among the common ones. -/
theorem atMostOne_bodies (detectChanges : Bool) (place : Place) (left : ClassDecl)
    (first second : List Method) :
    ∃ changed, AtMostOne (bodiesLevel left) .changed changed
        ((bodyFindings detectChanges place left
          (reconcile Method.key first second).result.common).map Finding.entry) ∧
      ∀ key ∈ changed,
        key ∈ (reconcile Method.key first second).result.common.map fun pair => pair.1.key := by
  unfold bodyFindings
  split
  case isTrue =>
    refine ⟨_, ?_, (changedKeys_sublist _).subset⟩
    rw [List.map_map, show Finding.entry ∘ Finding.mk place = id from rfl, List.map_id]
    exact atMostOne_entry _ .changed (changedKeys_increasing first second)
  case isFalse => exact ⟨[], .absent, by simp⟩

theorem typeReport_type (detectChanges : Bool) (package : CodePoints) (left right : ClassDecl) :
    TypeReport left ((typeFindings detectChanges package (left, right)).map Finding.entry) := by
  obtain ⟨changed, bodies, common⟩ := atMostOne_bodies detectChanges (.methods package left.key) left
    (comparedMethods left) (comparedMethods right)
  unfold typeFindings
  rw [List.map_append]
  refine .mk (presenceReport_level (.methods package left.key) (methodsLevel left) Method.key _ _)
    bodies ?_ ?_
  · exact fun key isRemoved isChanged =>
      not_mem_commonKeys_of_mem_removed _ _ _ isRemoved (common key isChanged)
  · exact fun key isAdded isChanged =>
      not_mem_commonKeys_of_mem_added _ _ _ isAdded (common key isChanged)

theorem packageReport_package (detectChanges : Bool) (left right : Package) :
    PackageReport left right
      ((packageFindings detectChanges (left, right)).map Finding.entry) := by
  unfold packageFindings
  rw [List.map_append]
  refine .mk (presenceReport_level (.types left.key) (typesLevel left) ClassDecl.key _ _)
    (common_increasing ClassDecl.key left.types right.types)
    (mem_commonKeys ClassDecl.key left.types right.types) ?_
  refine inTurn_flatMap (fun types : ClassDecl × ClassDecl => types.1.key) _ _ ?_
  intro types common
  obtain ⟨first, second⟩ := types
  exact ⟨first, ((mem_commonTypes left right first second).mp common).1,
    typeReport_type detectChanges left.key first second⟩

theorem surfaceReport_findings (detectChanges : Bool) (left right : Surface) :
    SurfaceReport left right ((findings detectChanges left right).map Finding.entry) := by
  unfold findings
  rw [List.map_append]
  refine .mk (presenceReport_level .packages packagesLevel Package.key _ _)
    (common_increasing Package.key left.packages right.packages)
    (mem_commonKeys Package.key left.packages right.packages) ?_
  refine inTurn_flatMap (fun packages : Package × Package => packages.1.key) _ _ ?_
  intro packages common
  obtain ⟨first, second⟩ := packages
  obtain ⟨isFirst, isSecond⟩ := (mem_commonPackages left right first second).mp common
  exact ⟨first, second, isFirst, isSecond, packageReport_package detectChanges first second⟩

/-- **Every report has the canonical shape.** What a comparison collects is, level by level and in
the order of the keys, at most one entry for each outcome, without empty or repeating entries. -/
theorem compare_report_canonical (detectChanges : Bool) (left right : Surface) :
    SurfaceReport left right
      (Surface.compare ⟨Collected.sink, detectChanges⟩ {} left right).state.entries.toList := by
  rw [state_compare, reported_collected]
  exact surfaceReport_findings detectChanges left right

end SurfaceDiff.Comparison
