import SurfaceDiff.Proofs.Report.Streams
import SurfaceDiff.Report.Console

/-!
Contract: the report for the eye as what a terminal makes of a few prints for each entry.

Owns: `entryTexts`, the prints of an entry spelled out; `TakesUpTo`, what is written of texts to a stream
that may refuse one; and `Prints`, which says what a comparison prints, next to the entries that it
collects.
Does not own: what a terminal makes of a print.

One step adds the texts of one item, or does nothing behind a refusal. That is said once for any step and
then used for the prints of an entry and for the entries of a comparison.
-/

namespace SurfaceDiff

open Text

/-! ## Texts that are written one after the other -/

/-- What a stream takes of some texts, and what it says if it refuses one: it takes all of them, or those
in front of the first that it refuses. -/
inductive Stream.TakesUpTo (stream : Stream) : List CodePoints → CodePoints → Option String → Prop where
  | all {texts : List CodePoints} (taken : ∀ text ∈ texts, stream.refusal? text = none) :
    TakesUpTo stream texts texts.flatten none
  | refused {before after : List CodePoints} {text : CodePoints} {reason : String}
    (taken : ∀ earlier ∈ before, stream.refusal? earlier = none)
    (refused : stream.refusal? text = some reason) :
    TakesUpTo stream (before ++ text :: after) before.flatten (some reason)

namespace Stream.TakesUpTo

variable {stream : Stream} {first second : List CodePoints} {written later : CodePoints}
  {refusal : Option String} {reason : String}

theorem append (isFirst : stream.TakesUpTo first written none)
    (isSecond : stream.TakesUpTo second later refusal) :
    stream.TakesUpTo (first ++ second) (written ++ later) refusal := by
  cases isFirst with
  | all taken =>
      cases isSecond with
      | all others =>
          rw [← List.flatten_append]
          exact .all (List.forall_mem_append.mpr ⟨taken, others⟩)
      | refused others refused =>
          rw [← List.flatten_append, ← List.append_assoc]
          exact .refused (List.forall_mem_append.mpr ⟨taken, others⟩) refused

theorem append_of_refused (isFirst : stream.TakesUpTo first written (some reason))
    (second : List CodePoints) : stream.TakesUpTo (first ++ second) written (some reason) := by
  cases isFirst with
  | refused taken refused =>
      rw [List.append_assoc, List.cons_append]
      exact .refused taken refused

theorem refusal_eq_none_iff (takes : stream.TakesUpTo first written refusal) :
    refusal = none ↔ ∀ text ∈ first, stream.refusal? text = none := by
  cases takes with
  | all taken => exact iff_of_true rfl taken
  | refused _ refused =>
      refine iff_of_false nofun fun taken => ?_
      rw [taken _ (List.mem_append_right _ List.mem_cons_self)] at refused
      cases refused

/-- Of texts that are all taken, nothing is left out. -/
theorem eq_flatten_of_taken (takes : stream.TakesUpTo first written refusal)
    (taken : ∀ text ∈ first, stream.refusal? text = none) : written = first.flatten := by
  have unrefused := takes.refusal_eq_none_iff.mpr taken
  cases takes with
  | all => rfl
  | refused => cases unrefused

end Stream.TakesUpTo

namespace Report.Console

/-! ## What is printed of an entry -/

/-- What stands in a headline in front of the level, and what behind it. -/
def headlineEnds : Outcome → String × String
  | .added => ("[green]Added ", ":[/green]")
  | .removed => ("[red]Removed ", ":[/red]")
  | .changed => ("[cyan]Changed ", ":[/cyan]")

/-- The texts of an entry: its headline, with the level as it is and in a colour; each of its items as it
is, behind a tab; and a blank line. -/
def entryTexts (terminal : Terminal) (entry : Entry) : List CodePoints :=
  let (front, back) := headlineEnds entry.outcome
  let headline := CodePoints.ofString front ++ terminal.escape entry.level ++ CodePoints.ofString back
  [terminal.render (.markup headline false)] ++
    entry.items.map (fun item => terminal.render (.plain (.ofString "\t" ++ item))) ++
    [terminal.render .blankLine]

theorem headline_eq (terminal : Terminal) (entry : Entry) :
    headline terminal entry =
      .ofString (headlineEnds entry.outcome).1 ++ terminal.escape entry.level ++
        .ofString (headlineEnds entry.outcome).2 := by
  unfold headline Terminal.styled
  cases entry.outcome <;> simp [headlineEnds, CodePoints.ofString, Outcome.colour, Outcome.label]

theorem map_render_prints (terminal : Terminal) (entry : Entry) :
    (prints terminal entry).map terminal.render = entryTexts terminal entry := by
  unfold prints entryTexts
  rw [headline_eq]
  simp [itemLine, CodePoints.ofString]

/-! ## Steps of a report -/

/-- From one point of a report to another, these texts are printed, or those that the stream takes. -/
def Adds (stream : Stream) (texts : List CodePoints) (before after : Progress) : Prop :=
  ∃ text, after.written.toList = before.written.toList ++ text ∧
    stream.TakesUpTo texts text after.refusal

section Steps

variable {stream : Stream} {α : Type} {texts : α → List CodePoints}
  {step : Progress → α → Progress}

theorem foldl_of_stopped
    (stops : ∀ progress item reason, progress.refusal = some reason → step progress item = progress)
    (items : List α) {progress : Progress} {reason : String} (stopped : progress.refusal = some reason) :
    items.foldl step progress = progress := by
  induction items with
  | nil => rfl
  | cons item items inductionHypothesis =>
      rw [List.foldl_cons, stops progress item reason stopped]
      exact inductionHypothesis

/-- Steps that add the texts of their items, and do nothing behind a refusal, add the texts of all items. -/
theorem adds_foldl
    (adds : ∀ progress item, progress.refusal = none →
      Adds stream (texts item) progress (step progress item))
    (stops : ∀ progress item reason, progress.refusal = some reason → step progress item = progress)
    (items : List α) {progress : Progress} (goesOn : progress.refusal = none) :
    Adds stream (items.flatMap texts) progress (items.foldl step progress) := by
  induction items generalizing progress with
  | nil => exact ⟨[], by simp, goesOn ▸ .all nofun⟩
  | cons item items inductionHypothesis =>
      obtain ⟨text, written, takes⟩ := adds progress item goesOn
      rw [List.foldl_cons, List.flatMap_cons]
      cases refusal : (step progress item).refusal with
      | none =>
          rw [refusal] at takes
          obtain ⟨more, writtenBehind, takesMore⟩ := inductionHypothesis refusal
          refine ⟨text ++ more, ?_, takes.append takesMore⟩
          rw [writtenBehind, written, List.append_assoc]
      | some reason =>
          rw [refusal] at takes
          rw [foldl_of_stopped stops items refusal]
          exact ⟨text, written, refusal ▸ takes.append_of_refused _⟩

end Steps

section Entries

variable {terminal : Terminal} {stream : Stream}

theorem print_of_stopped (progress : Progress) (print : Print) (reason : String)
    (stopped : progress.refusal = some reason) : progress.print terminal stream print = progress := by
  simp only [Progress.print, stopped]

theorem adds_print (progress : Progress) (print : Print) (goesOn : progress.refusal = none) :
    Adds stream [terminal.render print] progress (progress.print terminal stream print) := by
  simp only [Progress.print, goesOn]
  cases refusal : stream.refusal? (terminal.render print) with
  | none =>
      have takes : stream.TakesUpTo [terminal.render print] [terminal.render print].flatten none :=
        .all (by simpa using refusal)
      rw [List.flatten_singleton] at takes
      exact ⟨terminal.render print, Array.toList_appendList, by simpa [goesOn] using takes⟩
  | some reason =>
      have takes : stream.TakesUpTo ([] ++ [terminal.render print]) [].flatten (some reason) :=
        .refused nofun refusal
      exact ⟨[], by simp, takes⟩

theorem report_of_stopped (progress : Progress) (entry : Entry) (reason : String)
    (stopped : progress.refusal = some reason) :
    progress.report terminal stream entry = progress := by
  unfold Progress.report
  rw [foldl_of_stopped print_of_stopped _ stopped]
  simp only [stopped]

/-- The count of complete entries is not part of what is printed. -/
theorem Adds.of_same {texts : List CodePoints} {before after counted : Progress}
    (adds : Adds stream texts before after) (written : counted.written = after.written)
    (refusal : counted.refusal = after.refusal) : Adds stream texts before counted := by
  unfold Adds
  rw [written, refusal]
  exact adds

theorem adds_report (progress : Progress) (entry : Entry) (goesOn : progress.refusal = none) :
    Adds stream (entryTexts terminal entry) progress (progress.report terminal stream entry) := by
  have printed : Adds stream ((prints terminal entry).flatMap fun print => [terminal.render print])
      progress ((prints terminal entry).foldl (Progress.print terminal stream) progress) :=
    adds_foldl adds_print print_of_stopped _ goesOn
  rw [← List.map_eq_flatMap, map_render_prints] at printed
  unfold Progress.report
  dsimp only
  split
  · exact printed
  · exact printed.of_same rfl rfl

end Entries

end Report.Console

namespace Comparison

open Report.Console

/-- The texts of the entries that are collected, in their order. -/
def printedTexts (terminal : Terminal) (detectChanges : Bool) (left right : Surface) : List CodePoints :=
  (collect detectChanges left right).state.entries.toList.flatMap (entryTexts terminal)

/-- A comparison that prints counts what the collecting one counts. Of the texts of the entries that the
latter keeps it writes those that the stream takes, behind what was written before; and if the stream
takes every text, it writes them all. -/
structure Prints (terminal : Terminal) (stream : Stream) (detectChanges : Bool) (left right : Surface) :
    Prop where
  summary : ∀ progress,
    (Surface.compare ⟨sink terminal stream, detectChanges⟩ progress left right).summary =
      (collect detectChanges left right).summary
  text : ∀ progress, progress.refusal = none →
    Adds stream (printedTexts terminal detectChanges left right) progress
      (Surface.compare ⟨sink terminal stream, detectChanges⟩ progress left right).state
  whole : ∀ progress, progress.refusal = none →
    (∀ text ∈ printedTexts terminal detectChanges left right, stream.refusal? text = none) →
    (Surface.compare ⟨sink terminal stream, detectChanges⟩ progress left right).state.written.toList =
      progress.written.toList ++ (printedTexts terminal detectChanges left right).flatten

theorem adds_compare {terminal : Terminal} {stream : Stream} {detectChanges : Bool}
    {left right : Surface} {progress : Progress} (goesOn : progress.refusal = none) :
    Adds stream (printedTexts terminal detectChanges left right) progress
      (Surface.compare ⟨sink terminal stream, detectChanges⟩ progress left right).state := by
  unfold printedTexts
  rw [state_compare, entries_collect, reported, ← List.foldl_map]
  exact adds_foldl adds_report report_of_stopped _ goesOn

theorem prints (terminal : Terminal) (stream : Stream) (detectChanges : Bool) (left right : Surface) :
    Prints terminal stream detectChanges left right where
  summary := by
    intro progress
    unfold collect
    rw [summary_compare, summary_compare]
  text := fun _ goesOn => adds_compare goesOn
  whole := by
    intro progress goesOn taken
    obtain ⟨written, isWritten, takes⟩ := adds_compare goesOn
    rw [isWritten, takes.eq_flatten_of_taken taken]

end Comparison

end SurfaceDiff
