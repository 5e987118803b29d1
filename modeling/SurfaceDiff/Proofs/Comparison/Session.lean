import Mathlib.Tactic.SplitIfs
import SurfaceDiff.Proofs.Comparison.Counters

/-!
Contract: runs of comparisons and single reports on one collecting sink.

Owns: `Collected.Step`, what a step answers and appends, and the theorem that sink and counters keep in
step over every run.
Does not own: which entries a comparison makes.

The trace of a run, `Accounted`, says of each step what holds right after it. What the sink held
before plays no part in what a step answers.
-/

namespace SurfaceDiff

open Text

/-! ## Steps on one sink -/

theorem Outcome.ofName_eq_ok_iff (text : String) (outcome : Outcome) :
    ofName text = .ok outcome ↔ text = outcome.name := by
  constructor
  · intro read
    unfold ofName at read
    split_ifs at read with isAdded isRemoved isChanged
    · cases read
      exact isAdded
    · cases read
      exact isRemoved
    · cases read
      exact isChanged
  · rintro rfl
    cases outcome with
    | added => rfl
    | removed => rfl
    | changed => rfl

namespace Collected

open Comparison

/-- A use of the sink: a comparison that reports into it, or a report of a caller's own. -/
inductive Step where
  | compare (left right : Surface) (detectChanges : Bool)
  | report (level : CodePoints) (outcomeName : String) (items : List CodePoints)

inductive Answer where
  | compared (summary : Summary)
  | reported
  | refused (cause : Rejection)
deriving DecidableEq, Repr

/-- What a step answers, and what it makes of the sink. -/
def Step.apply (collected : Collected) : Step → Answer × Collected
  | .compare left right detectChanges =>
    let run := Surface.compare ⟨sink, detectChanges⟩ collected left right
    (.compared run.summary, run.state)
  | .report level outcomeName items =>
    match Entry.ofFields level outcomeName items with
    | .ok entry => (.reported, collected.report entry)
    | .error cause => (.refused cause, collected)

/-- The sink after steps one after the other. -/
def afterSteps (collected : Collected) (steps : List Step) : Collected :=
  steps.foldl (fun collected step => (step.apply collected).2) collected

/-- What an empty sink would get from a step. -/
def Step.entries (step : Step) : List Entry :=
  (step.apply {}).2.entries.toList

/-- What a step answers, and which entries are its own. -/
inductive Step.Yields : Step → Answer → List Entry → Prop where
  | compared {left right : Surface} {detectChanges : Bool} {fresh : Run Collected}
    (isFresh : fresh = Surface.compare ⟨sink, detectChanges⟩ {} left right)
    (tallies : fresh.summary.Tallies fresh.state.entries.toList) :
    Yields (.compare left right detectChanges) (.compared fresh.summary)
      fresh.state.entries.toList
  | reported (level : CodePoints) (outcome : Outcome) (items : List CodePoints) :
    Yields (.report level outcome.name items) .reported [⟨level, outcome, items⟩]
  | refused {name : String} (unknown : ∀ outcome : Outcome, name ≠ outcome.name) (level : CodePoints)
    (items : List CodePoints) :
    Yields (.report level name items) (.refused ⟨.reportEntry, [⟨"outcome", .notAnOutcome⟩]⟩) []

/-- Each entry is in the part of its outcome and in no other; a part keeps the order of reports. -/
structure Partitioned (collected : Collected) : Prop where
  whole : (collected.byOutcome .added ++ collected.byOutcome .removed ++
    collected.byOutcome .changed).Perm collected.entries.toList
  ordered : ∀ outcome, (collected.byOutcome outcome).Sublist collected.entries.toList
  outcome_of_mem : ∀ outcome, ∀ entry ∈ collected.byOutcome outcome, entry.outcome = outcome

/-- After each of the steps, the sink holds what it held before and then the step's own entries. -/
inductive Accounted : Collected → List Step → Prop where
  | nil (collected : Collected) : Accounted collected []
  | cons {collected : Collected} {step : Step} {steps : List Step}
    (yields : step.Yields (step.apply collected).1 step.entries)
    (appended : (step.apply collected).2.entries.toList = collected.entries.toList ++ step.entries)
    (partitioned : (step.apply collected).2.Partitioned)
    (rest : Accounted (step.apply collected).2 steps) :
    Accounted collected (step :: steps)

/-! ## The parts by outcome -/

theorem perm_byOutcome (entries : List Entry) :
    ((entries.filter fun entry => entry.outcome = .added) ++
      (entries.filter fun entry => entry.outcome = .removed) ++
      (entries.filter fun entry => entry.outcome = .changed)).Perm entries := by
  induction entries with
  | nil => exact .nil
  | cons entry rest inductionHypothesis =>
      rw [List.append_assoc] at inductionHypothesis ⊢
      cases kind : entry.outcome with
      | added => simpa [kind] using inductionHypothesis
      | removed => simpa [kind] using List.perm_middle.trans (inductionHypothesis.cons entry)
      | changed =>
          rw [← List.append_assoc] at inductionHypothesis ⊢
          simpa [kind] using List.perm_middle.trans (inductionHypothesis.cons entry)

theorem partitioned (collected : Collected) : collected.Partitioned where
  whole := perm_byOutcome collected.entries.toList
  ordered _ := List.filter_sublist
  outcome_of_mem _ _ member := of_decide_eq_true (List.mem_filter.mp member).2

/-! ## What a step does -/

theorem entries_compare (collected : Collected) (left right : Surface) (detectChanges : Bool) :
    (Surface.compare ⟨sink, detectChanges⟩ collected left right).state.entries.toList =
      collected.entries.toList ++ (findings detectChanges left right).map Finding.entry := by
  rw [state_compare, reported_collected]

namespace Step

theorem apply_report_name (collected : Collected) (level : CodePoints) (outcome : Outcome)
    (items : List CodePoints) :
    apply collected (.report level outcome.name items) =
      (.reported, collected.report ⟨level, outcome, items⟩) := by
  have known : Entry.ofFields level outcome.name items = .ok ⟨level, outcome, items⟩ := by
    unfold Entry.ofFields
    rw [(Outcome.ofName_eq_ok_iff _ outcome).mpr rfl]
  simp only [apply, known]

theorem apply_report_unknown (collected : Collected) {name : String}
    (unknown : ∀ outcome : Outcome, name ≠ outcome.name) (level : CodePoints)
    (items : List CodePoints) :
    apply collected (.report level name items) =
      (.refused ⟨.reportEntry, [⟨"outcome", .notAnOutcome⟩]⟩, collected) := by
  have refused : Entry.ofFields level name items =
      .error ⟨.reportEntry, [⟨"outcome", .notAnOutcome⟩]⟩ := by
    unfold Entry.ofFields
    cases read : Outcome.ofName name with
    | ok outcome => exact absurd ((Outcome.ofName_eq_ok_iff name outcome).mp read) (unknown outcome)
    | error cause => rfl
  simp only [apply, refused]

/-- A step appends to any sink what it appends to an empty one. -/
theorem entries_apply (collected : Collected) (step : Step) :
    (step.apply collected).2.entries.toList = collected.entries.toList ++ step.entries := by
  cases step with
  | compare left right detectChanges =>
      have own : (Step.compare left right detectChanges).entries =
          (findings detectChanges left right).map Finding.entry :=
        entries_compare {} left right detectChanges
      rw [own]
      exact entries_compare collected left right detectChanges
  | report level name items =>
      unfold entries
      by_cases known : ∃ outcome : Outcome, name = outcome.name
      · obtain ⟨outcome, rfl⟩ := known
        rw [apply_report_name, apply_report_name]
        simp [Collected.report]
      · have unknown : ∀ outcome : Outcome, name ≠ outcome.name :=
          fun outcome same => known ⟨outcome, same⟩
        rw [apply_report_unknown collected unknown, apply_report_unknown {} unknown]
        simp

/-- What a step answers does not depend on what the sink holds. -/
theorem yields_apply (collected : Collected) (step : Step) :
    step.Yields (step.apply collected).1 step.entries := by
  cases step with
  | compare left right detectChanges =>
      have summary : (Surface.compare ⟨sink, detectChanges⟩ collected left right).summary =
          (Surface.compare ⟨sink, detectChanges⟩ {} left right).summary := by
        rw [summary_compare, summary_compare]
      have own : (Surface.compare ⟨sink, detectChanges⟩ {} left right).state.entries.toList =
          (findings detectChanges left right).map Finding.entry :=
        entries_compare {} left right detectChanges
      simp only [apply, summary]
      refine .compared rfl ?_
      rw [own]
      exact tallies_compare _ _ left right
  | report level name items =>
      unfold entries
      by_cases known : ∃ outcome : Outcome, name = outcome.name
      · obtain ⟨outcome, rfl⟩ := known
        rw [apply_report_name, apply_report_name]
        exact .reported level outcome items
      · have unknown : ∀ outcome : Outcome, name ≠ outcome.name :=
          fun outcome same => known ⟨outcome, same⟩
        rw [apply_report_unknown collected unknown, apply_report_unknown {} unknown]
        exact .refused unknown level items

end Step

/-! ## Whole runs -/

theorem accounted (collected : Collected) (steps : List Step) : Accounted collected steps := by
  induction steps generalizing collected with
  | nil => exact .nil collected
  | cons step rest inductionHypothesis =>
      exact .cons (step.yields_apply collected) (step.entries_apply collected) (partitioned _)
        (inductionHypothesis _)

theorem entries_afterSteps (collected : Collected) (steps : List Step) :
    (collected.afterSteps steps).entries.toList =
      collected.entries.toList ++ steps.flatMap Step.entries := by
  unfold afterSteps
  induction steps generalizing collected with
  | nil => exact (List.append_nil _).symm
  | cons step rest inductionHypothesis =>
      rw [List.foldl_cons, inductionHypothesis, step.entries_apply, List.flatMap_cons,
        List.append_assoc]

/-- **Counters and sink never drift apart.** Over every run of comparisons and single reports, each
step appends its own entries and no others, and a comparison counts exactly these. -/
theorem steps_keep_account (collected : Collected) (steps : List Step) :
    Accounted collected steps ∧
      (collected.afterSteps steps).entries.toList =
        collected.entries.toList ++ steps.flatMap Step.entries :=
  ⟨accounted collected steps, entries_afterSteps collected steps⟩

end Collected

end SurfaceDiff
