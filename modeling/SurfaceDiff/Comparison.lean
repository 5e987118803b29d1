import SurfaceDiff.Body
import SurfaceDiff.Log
import SurfaceDiff.Reconciliation

/-!
Contract: the comparison of two surfaces, package by package, type by type, method by method.

Owns: the traversal, its levels and what is left out at each of them.
Does not own: what becomes of the entries; they go to a sink as soon as they are found.

Methods that the compiler made up are left out on both sides before methods are matched. Bodies
are not compared in a type whose left side is an enum, nor when the caller switches that off.
-/

namespace SurfaceDiff

open Text

/-- A comparison under way: the state of the sink, the counters, the events logged so far, and how many
of these came before each report. -/
structure Run (σ : Type) where
  state : σ
  summary : Summary := {}
  events : Array Log.Event := #[]
  eventsBefore : Array Nat := #[]

namespace Run

variable {σ : Type}

/-- Hands an entry to the sink and counts it. -/
def report (sink : Sink σ) (run : Run σ) (entry : Entry) : Run σ :=
  { run with
    state := sink.report run.state entry
    summary := run.summary.record entry.outcome entry.items.length
    eventsBefore := run.eventsBefore.push run.events.size }

def reportAll (sink : Sink σ) (run : Run σ) (entries : List Entry) : Run σ :=
  entries.foldl (report sink) run

/-- The events that were logged before the report of this number. -/
def eventsUpTo (run : Run σ) (report : Nat) : Array Log.Event :=
  run.events.take (run.eventsBefore.getD report run.events.size)

def log (run : Run σ) (event : Log.Event) : Run σ :=
  { run with events := run.events.push event }

def logRepeated (run : Run σ) (keys : List CodePoints) : Run σ :=
  keys.foldl (fun run key => run.log (.repeatedKey key)) run

end Run

namespace Comparison

/-- Where the entries go, and whether bodies are compared. -/
structure Plan (σ : Type) where
  sink : Sink σ
  detectChanges : Bool := true

variable {σ : Type}

def packagesLevel : CodePoints := .ofString "packages"

def typesLevel (package : Package) : CodePoints :=
  .ofString "classes in package " ++ package.name

def methodsLevel (decl : ClassDecl) : CodePoints :=
  .ofString ("methods in class " ++ decl.qualifiedName)

def bodiesLevel (decl : ClassDecl) : CodePoints :=
  .ofString ("methods in type " ++ decl.qualifiedName)

/-- The methods that take part. -/
def comparedMethods (decl : ClassDecl) : List Method :=
  decl.methods.filter fun method => ¬method.IsSynthetic

/-- Reconciles one level: logs the items left out and reports what one side only holds. -/
def matchLevel {α : Type} (plan : Plan σ) (level : CodePoints) (key : α → CodePoints)
    (left right : List α) (run : Run σ) : List (α × α) × Run σ :=
  let reconciled := reconcile key left right
  let run := run.logRepeated reconciled.repeated
  (reconciled.result.common, run.reportAll plan.sink (reconciled.result.entries level))

/-- Reports the methods whose bodies differ, if bodies of this type are compared at all. -/
def compareBodies (plan : Plan σ) (left : ClassDecl) (pairs : List (Method × Method))
    (run : Run σ) : Run σ :=
  if left.isEnum then
    run.log (.enumBodiesSkipped left.qualifiedName)
  else if plan.detectChanges then
    run.reportAll plan.sink
      (Reconciliation.entry? (bodiesLevel left) .changed (changedKeys pairs))
  else
    run

def compareTypes (plan : Plan σ) (run : Run σ) (types : ClassDecl × ClassDecl) : Run σ :=
  let (left, right) := types
  let run := { run with summary.typesCompared := run.summary.typesCompared + 1 }
  let (pairs, run) := matchLevel plan (methodsLevel left) Method.key
    (comparedMethods left) (comparedMethods right) run
  let run := { run with summary.methodsCompared := run.summary.methodsCompared + pairs.length }
  compareBodies plan left pairs run

def comparePackages (plan : Plan σ) (run : Run σ) (packages : Package × Package) : Run σ :=
  let (left, right) := packages
  let run := { run with summary.packagesCompared := run.summary.packagesCompared + 1 }
  let (pairs, run) := matchLevel plan (typesLevel left) ClassDecl.key left.types right.types run
  pairs.foldl (compareTypes plan) run

end Comparison

/-- Compares `left` (the base) with `right` (the target), starting from a state of the sink. -/
def Surface.compare {σ : Type} (plan : Comparison.Plan σ) (state : σ) (left right : Surface) : Run σ :=
  let (pairs, run) := Comparison.matchLevel plan Comparison.packagesLevel Package.key
    left.packages right.packages { state }
  let run := pairs.foldl (Comparison.comparePackages plan) run
  run.log (.surfacesCompared run.summary)

end SurfaceDiff
