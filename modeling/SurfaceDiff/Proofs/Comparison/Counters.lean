import SurfaceDiff.Proofs.Comparison.Exactness

/-!
Contract: what the counters of a comparison count.

Owns: the pairs that a comparison goes through, `Traversal`, and the law that the summary of a
comparison has the lengths of these lists and the tally of the findings in it.
Does not own: which pairs there are, nor which findings.

Three places of the traversal change the summary. Each of them adds the share of its own stretch, so
that the stretches can be joined without a look at the counters.
-/

namespace SurfaceDiff

open Text

/-- The number of items that the entries of one outcome hold together. -/
def itemCount (outcome : Outcome) (entries : List Entry) : Nat :=
  ((entries.filter fun entry => entry.outcome = outcome).flatMap Entry.items).length

theorem itemCount_append (outcome : Outcome) (first second : List Entry) :
    itemCount outcome (first ++ second) = itemCount outcome first + itemCount outcome second := by
  simp [itemCount]

theorem itemCount_singleton (outcome : Outcome) (entry : Entry) :
    itemCount outcome [entry] = if entry.outcome = outcome then entry.items.length else 0 := by
  by_cases same : entry.outcome = outcome
  · simp [itemCount, same]
  · simp [itemCount, same]

theorem itemCount_total (entries : List Entry) :
    itemCount .added entries + itemCount .removed entries + itemCount .changed entries =
      (entries.flatMap Entry.items).length := by
  induction entries with
  | nil => rfl
  | cons entry rest inductionHypothesis =>
      have split : ∀ outcome, itemCount outcome (entry :: rest) =
          (if entry.outcome = outcome then entry.items.length else 0) + itemCount outcome rest :=
        fun outcome => by
          rw [← itemCount_singleton, ← itemCount_append]
          rfl
      rw [split, split, split, List.flatMap_cons, List.length_append, ← inductionHypothesis]
      cases entry.outcome with
      | added => simp; omega
      | removed => simp; omega
      | changed => simp; omega

theorem itemCount_total_pos_iff {entries : List Entry}
    (nonempty : ∀ entry ∈ entries, entry.items ≠ []) :
    0 < itemCount .added entries + itemCount .removed entries + itemCount .changed entries ↔
      entries ≠ [] := by
  rw [itemCount_total, List.length_pos_iff]
  constructor
  · intro some none
    rw [none] at some
    exact some rfl
  · intro some none
    obtain ⟨entry, member⟩ := List.exists_mem_of_ne_nil entries some
    exact nonempty entry member (List.flatMap_eq_nil_iff.mp none entry member)

namespace Comparison

variable {σ α : Type}

/-! ## Stretches of a comparison -/

/-- The packages that both surfaces hold, in the order in which a comparison goes into them. -/
def matchedPackages (left right : Surface) : List (Package × Package) :=
  (reconcile Package.key left.packages right.packages).result.common

def matchedTypes (packages : Package × Package) : List (ClassDecl × ClassDecl) :=
  (reconcile ClassDecl.key packages.1.types packages.2.types).result.common

def matchedMethods (types : ClassDecl × ClassDecl) : List (Method × Method) :=
  (reconcile Method.key (comparedMethods types.1) (comparedMethods types.2)).result.common

/-- The types that a whole comparison goes into. -/
def visitedTypes (left right : Surface) : List (ClassDecl × ClassDecl) :=
  (matchedPackages left right).flatMap matchedTypes

/-- The methods that a whole comparison goes into. -/
def visitedMethods (left right : Surface) : List (Method × Method) :=
  (visitedTypes left right).flatMap matchedMethods

/-- What a stretch of a comparison goes through, and what it finds there. -/
structure Traversal where
  packages : List (Package × Package) := []
  types : List (ClassDecl × ClassDecl) := []
  methods : List (Method × Method) := []
  found : List Finding := []

namespace Traversal

/-- One stretch and then another. -/
def append (first second : Traversal) : Traversal where
  packages := first.packages ++ second.packages
  types := first.types ++ second.types
  methods := first.methods ++ second.methods
  found := first.found ++ second.found

/-- The stretches of all items, one after the other. -/
def ofItems (items : List α) (stretch : α → Traversal) : Traversal where
  packages := items.flatMap fun item => (stretch item).packages
  types := items.flatMap fun item => (stretch item).types
  methods := items.flatMap fun item => (stretch item).methods
  found := items.flatMap fun item => (stretch item).found

def entries (traversal : Traversal) : List Entry :=
  traversal.found.map Finding.entry

theorem entries_append (first second : Traversal) :
    (first.append second).entries = first.entries ++ second.entries :=
  List.map_append

theorem ofItems_cons (item : α) (items : List α) (stretch : α → Traversal) :
    ofItems (item :: items) stretch = (stretch item).append (ofItems items stretch) := by
  simp [ofItems, append]

/-- A type, its methods, and what differs between them. -/
def ofTypes (detectChanges : Bool) (package : CodePoints) (types : ClassDecl × ClassDecl) :
    Traversal where
  types := [types]
  methods := matchedMethods types
  found := typeFindings detectChanges package types

/-- A package, then each of its types. -/
def ofPackages (detectChanges : Bool) (packages : Package × Package) : Traversal :=
  let level := levelFindings (.types packages.1.key) (typesLevel packages.1) ClassDecl.key
    packages.1.types packages.2.types
  append { packages := [packages], found := level }
    (ofItems (matchedTypes packages) (ofTypes detectChanges packages.1.key))

/-- A whole comparison. -/
def ofSurfaces (detectChanges : Bool) (left right : Surface) : Traversal :=
  let level := levelFindings .packages packagesLevel Package.key left.packages right.packages
  append { found := level } (ofItems (matchedPackages left right) (ofPackages detectChanges))

theorem packages_ofSurfaces (detectChanges : Bool) (left right : Surface) :
    (ofSurfaces detectChanges left right).packages = matchedPackages left right := by
  have none : ∀ packages : Package × Package,
      ((matchedTypes packages).flatMap fun types =>
        (ofTypes detectChanges packages.1.key types).packages) = [] :=
    fun packages => List.flatMap_eq_nil_iff.mpr fun _ _ => rfl
  simp [ofSurfaces, ofPackages, ofItems, append, none]

theorem types_ofSurfaces (detectChanges : Bool) (left right : Surface) :
    (ofSurfaces detectChanges left right).types = visitedTypes left right := by
  simp [ofSurfaces, ofPackages, ofTypes, ofItems, append, visitedTypes]

theorem methods_ofSurfaces (detectChanges : Bool) (left right : Surface) :
    (ofSurfaces detectChanges left right).methods = visitedMethods left right := by
  simp [ofSurfaces, ofPackages, ofTypes, ofItems, append, visitedMethods, visitedTypes,
    List.flatMap_assoc]

end Traversal

end Comparison

/-! ## The share of a stretch in the counters -/

open Comparison

/-- The counters of the summary are those of the entries. -/
structure Summary.Tallies (summary : Summary) (own : List Entry) : Prop where
  entries : summary.entries = own.length
  added : summary.added = itemCount .added own
  removed : summary.removed = itemCount .removed own
  changed : summary.changed = itemCount .changed own
  differs_iff_entries : summary.HasDifferences ↔ own ≠ []
  differs_iff_items : summary.HasDifferences ↔ 0 < summary.added + summary.removed + summary.changed

/-- The counters after one more stretch. -/
def Summary.after (summary : Summary) (stretch : Traversal) : Summary where
  packagesCompared := summary.packagesCompared + stretch.packages.length
  typesCompared := summary.typesCompared + stretch.types.length
  methodsCompared := summary.methodsCompared + stretch.methods.length
  entries := summary.entries + stretch.entries.length
  added := summary.added + itemCount .added stretch.entries
  removed := summary.removed + itemCount .removed stretch.entries
  changed := summary.changed + itemCount .changed stretch.entries

theorem Summary.after_empty (summary : Summary) : summary.after {} = summary := by
  simp [after, Traversal.entries, itemCount]

theorem Summary.after_append (summary : Summary) (first second : Traversal) :
    summary.after (first.append second) = (summary.after first).after second := by
  unfold after
  rw [Traversal.entries_append, itemCount_append, itemCount_append, itemCount_append]
  simp only [Traversal.append, List.length_append, Int.natCast_add, Int.add_assoc]

/-- Reporting an entry counts it. -/
theorem Summary.record_eq_after (summary : Summary) (finding : Finding) :
    summary.record finding.entry.outcome finding.entry.items.length =
      summary.after { found := [finding] } := by
  unfold record after Traversal.entries
  simp only [List.map_cons, List.map_nil, itemCount_singleton]
  cases finding.entry.outcome with
  | added => simp
  | removed => simp
  | changed => simp

theorem Summary.count_packages_eq_after (summary : Summary) (packages : Package × Package) :
    { summary with packagesCompared := summary.packagesCompared + 1 } =
      summary.after { packages := [packages] } := by
  simp [after, Traversal.entries, itemCount]

theorem Summary.count_types_eq_after (summary : Summary) (types : ClassDecl × ClassDecl) :
    { summary with typesCompared := summary.typesCompared + 1 } =
      summary.after { types := [types] } := by
  simp [after, Traversal.entries, itemCount]

theorem Summary.count_methods_eq_after (summary : Summary) (methods : List (Method × Method)) :
    { summary with methodsCompared := summary.methodsCompared + methods.length } =
      summary.after { methods } := by
  simp [after, Traversal.entries, itemCount]

namespace Comparison

variable {σ α : Type}

theorem summary_reportAll (sink : Sink σ) (run : Run σ) (place : Place) (entries : List Entry) :
    (run.reportAll sink entries).summary =
      run.summary.after { found := entries.map (Finding.mk place) } := by
  unfold Run.reportAll
  induction entries generalizing run with
  | nil => exact (Summary.after_empty run.summary).symm
  | cons entry rest inductionHypothesis =>
      have counted : (run.report sink entry).summary =
          run.summary.after { found := [⟨place, entry⟩] } :=
        Summary.record_eq_after run.summary ⟨place, entry⟩
      rw [List.foldl_cons, inductionHypothesis, counted, ← Summary.after_append]
      rfl

theorem summary_logRepeated (run : Run σ) (keys : List CodePoints) :
    (run.logRepeated keys).summary = run.summary := by
  unfold Run.logRepeated
  induction keys generalizing run with
  | nil => rfl
  | cons key rest inductionHypothesis =>
      rw [List.foldl_cons, inductionHypothesis]
      rfl

theorem summary_matchLevel (plan : Plan σ) (place : Place) (level : CodePoints) (key : α → CodePoints)
    (left right : List α) (run : Run σ) :
    (matchLevel plan level key left right run).2.summary =
      run.summary.after { found := levelFindings place level key left right } := by
  unfold matchLevel levelFindings
  rw [summary_reportAll plan.sink _ place, summary_logRepeated]

theorem summary_compareBodies (plan : Plan σ) (place : Place) (left : ClassDecl)
    (pairs : List (Method × Method)) (run : Run σ) :
    (compareBodies plan left pairs run).summary =
      run.summary.after { found := bodyFindings plan.detectChanges place left pairs } := by
  unfold compareBodies bodyFindings
  by_cases isEnum : left.isEnum
  · simp [isEnum, Run.log, Summary.after_empty]
  · by_cases detects : plan.detectChanges
    · simp only [isEnum, detects, Bool.false_eq_true, if_false, if_true, and_self]
      exact summary_reportAll plan.sink run place _
    · simp [isEnum, detects, Summary.after_empty]

theorem summary_compareTypes (plan : Plan σ) (package : CodePoints) (run : Run σ)
    (types : ClassDecl × ClassDecl) :
    (compareTypes plan run types).summary =
      run.summary.after (.ofTypes plan.detectChanges package types) := by
  let place := Place.methods package types.1.key
  let level : Traversal := {
    found := levelFindings place (methodsLevel types.1) Method.key
      (comparedMethods types.1) (comparedMethods types.2) }
  let methods : Traversal := { methods := matchedMethods types }
  let bodies : Traversal :=
    { found := bodyFindings plan.detectChanges place types.1 (matchedMethods types) }
  have stretches : .ofTypes plan.detectChanges package types =
      (({ types := [types] } : Traversal).append level).append (methods.append bodies) := by
    simp [Traversal.ofTypes, Traversal.append, typeFindings, matchedMethods, place, level, methods,
      bodies]
  let entered := { run with summary.typesCompared := run.summary.typesCompared + 1 }
  let leveled := (matchLevel plan (methodsLevel types.1) Method.key
    (comparedMethods types.1) (comparedMethods types.2) entered).2
  let counted := { leveled with
    summary.methodsCompared := leveled.summary.methodsCompared + (matchedMethods types).length }
  calc (compareTypes plan run types).summary
      = (compareBodies plan types.1 (matchedMethods types) counted).summary := rfl
    _ = counted.summary.after bodies := summary_compareBodies plan place types.1 _ counted
    _ = (leveled.summary.after methods).after bodies := by
        rw [← Summary.count_methods_eq_after]
    _ = ((entered.summary.after level).after methods).after bodies := by
        rw [← summary_matchLevel plan place]
    _ = run.summary.after (.ofTypes plan.detectChanges package types) := by
        rw [stretches, Summary.after_append, Summary.after_append, Summary.after_append,
          ← Summary.count_types_eq_after]

/-- A fold of steps adds the shares of all its steps. -/
theorem summary_foldl (step : Run σ → α → Run σ) (stretch : α → Traversal)
    (steps : ∀ run item, (step run item).summary = run.summary.after (stretch item))
    (items : List α) (run : Run σ) :
    (items.foldl step run).summary = run.summary.after (.ofItems items stretch) := by
  induction items generalizing run with
  | nil => exact (Summary.after_empty run.summary).symm
  | cons item rest inductionHypothesis =>
      rw [List.foldl_cons, inductionHypothesis, steps, Traversal.ofItems_cons, Summary.after_append]

theorem summary_comparePackages (plan : Plan σ) (run : Run σ) (packages : Package × Package) :
    (comparePackages plan run packages).summary =
      run.summary.after (.ofPackages plan.detectChanges packages) := by
  let place := Place.types packages.1.key
  let level : Traversal := {
    found := levelFindings place (typesLevel packages.1) ClassDecl.key
      packages.1.types packages.2.types }
  let types : Traversal := .ofItems (matchedTypes packages)
    (.ofTypes plan.detectChanges packages.1.key)
  have stretches : .ofPackages plan.detectChanges packages =
      (({ packages := [packages] } : Traversal).append level).append types := rfl
  let entered := { run with summary.packagesCompared := run.summary.packagesCompared + 1 }
  let leveled := (matchLevel plan (typesLevel packages.1) ClassDecl.key
    packages.1.types packages.2.types entered).2
  calc (comparePackages plan run packages).summary
      = ((matchedTypes packages).foldl (compareTypes plan) leveled).summary := rfl
    _ = leveled.summary.after types :=
        summary_foldl _ _ (summary_compareTypes plan packages.1.key) _ leveled
    _ = (entered.summary.after level).after types := by
        rw [← summary_matchLevel plan place]
    _ = run.summary.after (.ofPackages plan.detectChanges packages) := by
        rw [stretches, Summary.after_append, Summary.after_append,
          ← Summary.count_packages_eq_after]

/-- The summary of a comparison counts what it goes through and what it finds, whatever its sink. -/
theorem summary_compare (plan : Plan σ) (state : σ) (left right : Surface) :
    (Surface.compare plan state left right).summary =
      ({} : Summary).after (.ofSurfaces plan.detectChanges left right) := by
  let leveled := (matchLevel plan packagesLevel Package.key left.packages right.packages
    { state }).2
  have level := summary_matchLevel plan .packages packagesLevel Package.key left.packages
    right.packages { state }
  unfold Traversal.ofSurfaces
  rw [Summary.after_append, ← level]
  exact summary_foldl _ _ (summary_comparePackages plan) (matchedPackages left right) leveled

theorem packagesCompared_compare (plan : Plan σ) (state : σ) (left right : Surface) :
    (Surface.compare plan state left right).summary.packagesCompared =
      (matchedPackages left right).length := by
  rw [summary_compare, ← Traversal.packages_ofSurfaces plan.detectChanges]
  exact Int.zero_add _

theorem typesCompared_compare (plan : Plan σ) (state : σ) (left right : Surface) :
    (Surface.compare plan state left right).summary.typesCompared =
      (visitedTypes left right).length := by
  rw [summary_compare, ← Traversal.types_ofSurfaces plan.detectChanges]
  exact Int.zero_add _

theorem methodsCompared_compare (plan : Plan σ) (state : σ) (left right : Surface) :
    (Surface.compare plan state left right).summary.methodsCompared =
      (visitedMethods left right).length := by
  rw [summary_compare, ← Traversal.methods_ofSurfaces plan.detectChanges]
  exact Int.zero_add _

theorem items_ne_nil_of_mem_findings {detectChanges : Bool} {left right : Surface} {entry : Entry}
    (member : entry ∈ (findings detectChanges left right).map Finding.entry) : entry.items ≠ [] := by
  obtain ⟨finding, found, rfl⟩ := List.mem_map.mp member
  exact (labelled_of_mem_findings found).2

/-- A summary holds the tally of the findings, whatever the sink and its state. -/
theorem tallies_compare (plan : Plan σ) (state : σ) (left right : Surface) :
    (Surface.compare plan state left right).summary.Tallies
      ((findings plan.detectChanges left right).map Finding.entry) := by
  let own := (findings plan.detectChanges left right).map Finding.entry
  have summary := summary_compare plan state left right
  have entries : (Surface.compare plan state left right).summary.entries = own.length := by
    rw [summary]
    exact Int.zero_add _
  have added : (Surface.compare plan state left right).summary.added = itemCount .added own := by
    rw [summary]
    exact Int.zero_add _
  have removed : (Surface.compare plan state left right).summary.removed =
      itemCount .removed own := by
    rw [summary]
    exact Int.zero_add _
  have changed : (Surface.compare plan state left right).summary.changed =
      itemCount .changed own := by
    rw [summary]
    exact Int.zero_add _
  have differs : (Surface.compare plan state left right).summary.HasDifferences ↔ own ≠ [] := by
    unfold Summary.HasDifferences
    rw [entries, Int.natCast_pos, List.length_pos_iff]
  refine ⟨entries, added, removed, changed, differs, ?_⟩
  have nonempty : ∀ entry ∈ own, entry.items ≠ [] :=
    fun _ member => items_ne_nil_of_mem_findings member
  rw [differs, ← itemCount_total_pos_iff nonempty, added, removed, changed]
  omega

/-- Between the same packages nothing is reported and nothing counted. -/
theorem silent_of_packages_eq {σ : Type} (plan : Plan σ) (state : σ) {left right : Surface}
    (same : left.packages = right.packages) :
    (Surface.compare plan state left right).state = state ∧
      ¬(Surface.compare plan state left right).summary.HasDifferences := by
  have nothing := (findings_eq_nil_iff plan.detectChanges left right).mpr
    (agree_of_packages_eq same plan.detectChanges)
  constructor
  · rw [state_compare, nothing]
    rfl
  · rw [(tallies_compare plan state left right).differs_iff_entries, nothing]
    exact fun some => some rfl

end Comparison

end SurfaceDiff
