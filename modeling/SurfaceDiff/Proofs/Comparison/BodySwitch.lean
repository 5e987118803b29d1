import Mathlib.Data.List.Basic
import SurfaceDiff.Proofs.Comparison.Reports
import SurfaceDiff.Proofs.Comparison.Session

/-!
Contract: a comparison with bodies and the same comparison without them.

Owns: `ChangedDropped`, which says what the two runs have in common, and the theorem that switching off
the comparison of bodies drops the entries of changed methods and nothing else, for any sink.
Does not own: enums, which leave out their bodies in both runs.
-/

namespace SurfaceDiff

open Text

/-- The entries that are not about changed bodies, in their order. -/
def withoutChanged (entries : List Entry) : List Entry :=
  entries.filter fun entry => entry.outcome ≠ .changed

namespace Comparison

/-- The second run is the first one less its entries of changed methods. -/
structure ChangedDropped (full reduced : Run Collected) : Prop where
  entries : reduced.state.entries.toList = withoutChanged full.state.entries.toList
  packagesCompared : reduced.summary.packagesCompared = full.summary.packagesCompared
  typesCompared : reduced.summary.typesCompared = full.summary.typesCompared
  methodsCompared : reduced.summary.methodsCompared = full.summary.methodsCompared
  added : reduced.summary.added = full.summary.added
  removed : reduced.summary.removed = full.summary.removed
  changed : reduced.summary.changed = 0
  entriesCount : reduced.summary.entries =
    full.summary.entries - (full.state.byOutcome .changed).length

/-! ## Entries -/

theorem entries_findings_false (left right : Surface) :
    (findings false left right).map Finding.entry =
      withoutChanged ((findings true left right).map Finding.entry) := by
  rw [← filter_findings true left right, withoutChanged, List.filter_map]
  rfl

theorem itemCount_withoutChanged {outcome : Outcome} (kept : outcome ≠ .changed)
    (entries : List Entry) : itemCount outcome (withoutChanged entries) = itemCount outcome entries := by
  unfold itemCount withoutChanged
  rw [List.filter_filter]
  refine congrArg (fun selected => (List.flatMap Entry.items selected).length)
    (List.filter_congr fun entry _ => ?_)
  by_cases same : entry.outcome = outcome
  · simp [same, kept]
  · simp [same]

theorem itemCount_changed_withoutChanged (entries : List Entry) :
    itemCount .changed (withoutChanged entries) = 0 := by
  unfold itemCount withoutChanged
  rw [List.filter_filter, List.filter_eq_nil_iff.mpr fun entry _ => by simp]
  rfl

theorem length_withoutChanged (entries : List Entry) :
    entries.length = (withoutChanged entries).length +
      (entries.filter fun entry => entry.outcome = .changed).length := by
  rw [List.length_eq_length_filter_add (l := entries) fun entry => entry.outcome ≠ .changed]
  simp [withoutChanged]

theorem reported_eq_foldl {σ : Type} (sink : Sink σ) (state : σ) (found : List Finding) :
    reported sink state found = (found.map Finding.entry).foldl sink.report state :=
  List.foldl_map.symm

/-! ## Runs -/

theorem changedDropped (left right : Surface) :
    ChangedDropped (Surface.compare ⟨Collected.sink, true⟩ {} left right)
      (Surface.compare ⟨Collected.sink, false⟩ {} left right) := by
  have full : (Surface.compare ⟨Collected.sink, true⟩ {} left right).state.entries.toList =
      (findings true left right).map Finding.entry := Collected.entries_compare {} left right true
  have reduced : (Surface.compare ⟨Collected.sink, false⟩ {} left right).state.entries.toList =
      (findings false left right).map Finding.entry := Collected.entries_compare {} left right false
  have tallies := tallies_compare ⟨Collected.sink, true⟩ {} left right
  have talliesReduced := tallies_compare ⟨Collected.sink, false⟩ {} left right
  dsimp only at tallies talliesReduced
  rw [entries_findings_false] at talliesReduced
  exact {
    entries := by rw [reduced, full, entries_findings_false]
    packagesCompared := by rw [packagesCompared_compare, packagesCompared_compare]
    typesCompared := by rw [typesCompared_compare, typesCompared_compare]
    methodsCompared := by rw [methodsCompared_compare, methodsCompared_compare]
    added := by
      rw [talliesReduced.added, tallies.added, itemCount_withoutChanged (by decide)]
    removed := by
      rw [talliesReduced.removed, tallies.removed, itemCount_withoutChanged (by decide)]
    changed := by
      rw [talliesReduced.changed, itemCount_changed_withoutChanged]
      rfl
    entriesCount := by
      have parts := length_withoutChanged ((findings true left right).map Finding.entry)
      unfold Collected.byOutcome
      rw [talliesReduced.entries, tallies.entries, full]
      omega }

/-- **Switching bodies off drops the changed methods and nothing else.** The report is the same less the
entries of changed methods, the other counters stay, and so it is for every sink, whatever it makes of
the entries. -/
theorem compare_without_bodies (left right : Surface) :
    ChangedDropped (Surface.compare ⟨Collected.sink, true⟩ {} left right)
        (Surface.compare ⟨Collected.sink, false⟩ {} left right) ∧
      ∀ {σ : Type} (sink : Sink σ) (state : σ),
        (Surface.compare ⟨sink, false⟩ state left right).state =
            (withoutChanged (Surface.compare ⟨Collected.sink, true⟩ {} left right
              ).state.entries.toList).foldl sink.report state ∧
          (Surface.compare ⟨sink, false⟩ state left right).summary =
            (Surface.compare ⟨Collected.sink, false⟩ {} left right).summary := by
  refine ⟨changedDropped left right, ?_⟩
  intro σ sink state
  constructor
  · rw [state_compare, reported_eq_foldl, entries_findings_false, Collected.entries_compare]
    rfl
  · rw [summary_compare, summary_compare]

end Comparison

end SurfaceDiff
