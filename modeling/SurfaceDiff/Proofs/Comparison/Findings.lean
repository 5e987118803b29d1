import SurfaceDiff.Comparison
import SurfaceDiff.Proofs.Reconciliation

/-!
Contract: the entries of a comparison as a list of findings, each with the place it is about.

Owns: `Place`, `Finding`, the findings of two surfaces, and the law that a comparison does to its
sink what reporting the findings one after the other does.
Does not own: which findings there are; and no counter or log of a comparison.

Entries name their level by a text, and two types can share that text. Places keep them apart.
-/

namespace SurfaceDiff

open Text

/-- The level of a difference: the packages, the types of a package or the methods of a type. -/
inductive Place where
  | packages
  | types (package : CodePoints)
  | methods (package type : CodePoints)
deriving DecidableEq

/-- The package inside which a level lies. -/
def Place.package? : Place → Option CodePoints
  | .packages => none
  | .types package => some package
  | .methods package _ => some package

/-- An entry and the level it is about. -/
structure Finding where
  place : Place
  entry : Entry

namespace Comparison

variable {σ α : Type}

/-! ## The findings of each level -/

def levelFindings (place : Place) (level : CodePoints) (key : α → CodePoints) (left right : List α) :
    List Finding :=
  ((reconcile key left right).result.entries level).map (Finding.mk place)

def bodyFindings (detectChanges : Bool) (place : Place) (left : ClassDecl)
    (pairs : List (Method × Method)) : List Finding :=
  if left.isEnum = false ∧ detectChanges = true then
    (Reconciliation.entry? (bodiesLevel left) .changed (changedKeys pairs)).map (Finding.mk place)
  else
    []

def typeFindings (detectChanges : Bool) (package : CodePoints) (types : ClassDecl × ClassDecl) :
    List Finding :=
  let place := .methods package types.1.key
  let left := comparedMethods types.1
  let right := comparedMethods types.2
  levelFindings place (methodsLevel types.1) Method.key left right ++
    bodyFindings detectChanges place types.1 (reconcile Method.key left right).result.common

def packageFindings (detectChanges : Bool) (packages : Package × Package) : List Finding :=
  let left := packages.1.types
  let right := packages.2.types
  levelFindings (.types packages.1.key) (typesLevel packages.1) ClassDecl.key left right ++
    (reconcile ClassDecl.key left right).result.common.flatMap
      (typeFindings detectChanges packages.1.key)

/-- All findings, in the order in which they are reported. -/
def findings (detectChanges : Bool) (left right : Surface) : List Finding :=
  levelFindings .packages packagesLevel Package.key left.packages right.packages ++
    (reconcile Package.key left.packages right.packages).result.common.flatMap
      (packageFindings detectChanges)

/-! ## What a comparison does to the sink

Counting and logging leave the sink alone, so each step of the traversal is a fold of reports. -/

/-- The state after reporting the entries of the findings in their order. -/
def reported (sink : Sink σ) (state : σ) (found : List Finding) : σ :=
  found.foldl (fun state finding => sink.report state finding.entry) state

theorem reported_append (sink : Sink σ) (state : σ) (first second : List Finding) :
    reported sink state (first ++ second) = reported sink (reported sink state first) second :=
  List.foldl_append

theorem state_reportAll (sink : Sink σ) (run : Run σ) (place : Place) (entries : List Entry) :
    (run.reportAll sink entries).state =
      reported sink run.state (entries.map (Finding.mk place)) := by
  unfold Run.reportAll reported
  induction entries generalizing run with
  | nil => rfl
  | cons entry rest inductionHypothesis =>
      rw [List.foldl_cons, inductionHypothesis]
      rfl

theorem state_logRepeated (run : Run σ) (keys : List CodePoints) :
    (run.logRepeated keys).state = run.state := by
  unfold Run.logRepeated
  induction keys generalizing run with
  | nil => rfl
  | cons key rest inductionHypothesis =>
      rw [List.foldl_cons, inductionHypothesis]
      rfl

theorem state_matchLevel (plan : Plan σ) (place : Place) (level : CodePoints) (key : α → CodePoints)
    (left right : List α) (run : Run σ) :
    (matchLevel plan level key left right run).2.state =
      reported plan.sink run.state (levelFindings place level key left right) := by
  unfold matchLevel levelFindings
  rw [state_reportAll plan.sink _ place, state_logRepeated]

theorem state_compareBodies (plan : Plan σ) (place : Place) (left : ClassDecl)
    (pairs : List (Method × Method)) (run : Run σ) :
    (compareBodies plan left pairs run).state =
      reported plan.sink run.state (bodyFindings plan.detectChanges place left pairs) := by
  unfold compareBodies bodyFindings
  by_cases isEnum : left.isEnum
  · simp [isEnum, reported, Run.log]
  · by_cases detects : plan.detectChanges
    · simp only [isEnum, detects, Bool.false_eq_true, if_false, if_true, and_self]
      exact state_reportAll plan.sink run place _
    · simp [isEnum, detects, reported]

theorem state_compareTypes (plan : Plan σ) (package : CodePoints) (run : Run σ)
    (types : ClassDecl × ClassDecl) :
    (compareTypes plan run types).state =
      reported plan.sink run.state (typeFindings plan.detectChanges package types) := by
  unfold compareTypes typeFindings
  rw [reported_append, state_compareBodies plan (.methods package types.1.key),
    state_matchLevel plan (.methods package types.1.key)]
  rfl

/-- A fold of steps that each report some findings reports the findings of all steps. -/
theorem state_foldl (sink : Sink σ) (step : Run σ → α → Run σ) (found : α → List Finding)
    (steps : ∀ run item, (step run item).state = reported sink run.state (found item))
    (items : List α) (run : Run σ) :
    (items.foldl step run).state = reported sink run.state (items.flatMap found) := by
  induction items generalizing run with
  | nil => rfl
  | cons item rest inductionHypothesis =>
      rw [List.foldl_cons, inductionHypothesis, steps, List.flatMap_cons, reported_append]

theorem state_comparePackages (plan : Plan σ) (run : Run σ) (packages : Package × Package) :
    (comparePackages plan run packages).state =
      reported plan.sink run.state (packageFindings plan.detectChanges packages) := by
  let counted := { run with summary.packagesCompared := run.summary.packagesCompared + 1 }
  have level := state_matchLevel plan (.types packages.1.key) (typesLevel packages.1)
    ClassDecl.key packages.1.types packages.2.types counted
  unfold comparePackages packageFindings
  rw [reported_append, ← level]
  exact state_foldl plan.sink _ _ (state_compareTypes plan packages.1.key) _ _

/-- A comparison reports its findings to the sink and does nothing else to it. -/
theorem state_compare (plan : Plan σ) (state : σ) (left right : Surface) :
    (Surface.compare plan state left right).state =
      reported plan.sink state (findings plan.detectChanges left right) := by
  unfold Surface.compare findings
  rw [reported_append, ← state_matchLevel plan _ _ _ _ _ { state }]
  exact state_foldl plan.sink _ _ (state_comparePackages plan) _ _

/-- The collecting sink ends up with the entries of the findings behind those it held. -/
theorem reported_collected (collected : Collected) (found : List Finding) :
    (reported Collected.sink collected found).entries.toList =
      collected.entries.toList ++ found.map Finding.entry := by
  unfold reported
  induction found generalizing collected with
  | nil => simp
  | cons finding rest inductionHypothesis =>
      rw [List.foldl_cons, inductionHypothesis]
      simp [Collected.sink, Collected.report]

end Comparison

end SurfaceDiff
