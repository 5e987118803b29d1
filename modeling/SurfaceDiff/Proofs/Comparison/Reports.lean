import Mathlib.Data.List.Basic
import SurfaceDiff.Proofs.Comparison.Counters

/-!
Contract: the findings of a comparison sorted by outcome, and those of one level.

Owns: `reportsOf`, which forgets the text that names a level but keeps the level itself; what each
stretch of a comparison adds to it; and the reports of a single type as those of the whole comparison
at its level.
Does not own: two comparisons side by side.
-/

namespace SurfaceDiff.Comparison

open Text

variable {α : Type}

/-- The reports of one outcome in their order: the level of each and the items that it lists. -/
def reportsOf (outcome : Outcome) (found : List Finding) : List (Place × List CodePoints) :=
  (found.filter fun finding => finding.entry.outcome = outcome).map fun finding =>
    (finding.place, finding.entry.items)

/-- The lists of items that one level reports with one outcome. -/
def listsAt (place : Place) (outcome : Outcome) (found : List Finding) : List (List CodePoints) :=
  ((reportsOf outcome found).filter fun report => report.1 = place).map Prod.snd

/-- A report of all items, unless there is none. -/
def reportUnlessEmpty (place : Place) (items : List CodePoints) : List (Place × List CodePoints) :=
  if items = [] then [] else [(place, items)]

/-- The keys that a level reports with one outcome. -/
def presenceKeys (key : α → CodePoints) (left right : List α) : Outcome → List CodePoints
  | .removed => (reconcile key left right).result.removed
  | .added => (reconcile key left right).result.added
  | .changed => []

/-- The keys of the methods whose bodies are reported as changed. -/
def bodyKeys (detectChanges : Bool) (types : ClassDecl × ClassDecl) : Outcome → List CodePoints
  | .changed =>
    if types.1.isEnum = false ∧ detectChanges = true then changedKeys (matchedMethods types) else []
  | .removed | .added => []

/-! ## The reports of each stretch -/

theorem reportsOf_append (outcome : Outcome) (first second : List Finding) :
    reportsOf outcome (first ++ second) = reportsOf outcome first ++ reportsOf outcome second := by
  simp [reportsOf]

theorem reportsOf_flatMap (outcome : Outcome) (items : List α) (found : α → List Finding) :
    reportsOf outcome (items.flatMap found) =
      items.flatMap fun item => reportsOf outcome (found item) := by
  simp [reportsOf, List.filter_flatMap, List.map_flatMap]

theorem reportsOf_entry (wanted : Outcome) (place : Place) (level : CodePoints) (outcome : Outcome)
    (items : List CodePoints) :
    reportsOf wanted ((Reconciliation.entry? level outcome items).map (Finding.mk place)) =
      if outcome = wanted then reportUnlessEmpty place items else [] := by
  unfold Reconciliation.entry? reportUnlessEmpty reportsOf
  by_cases empty : items = []
  · simp [empty]
  · by_cases same : outcome = wanted
    · simp [empty, same]
    · simp [empty, same]

theorem reportsOf_level (outcome : Outcome) (place : Place) (level : CodePoints)
    (key : α → CodePoints) (left right : List α) :
    reportsOf outcome (levelFindings place level key left right) =
      reportUnlessEmpty place (presenceKeys key left right outcome) := by
  unfold levelFindings Reconciliation.entries
  rw [List.map_append, reportsOf_append, reportsOf_entry, reportsOf_entry]
  cases outcome with
  | added => simp [presenceKeys]
  | removed => simp [presenceKeys]
  | changed => simp [presenceKeys, reportUnlessEmpty]

theorem reportsOf_body (outcome : Outcome) (detectChanges : Bool) (place : Place)
    (types : ClassDecl × ClassDecl) :
    reportsOf outcome (bodyFindings detectChanges place types.1 (matchedMethods types)) =
      reportUnlessEmpty place (bodyKeys detectChanges types outcome) := by
  unfold bodyFindings
  split
  case isTrue compared =>
    rw [reportsOf_entry]
    cases outcome with
    | added => simp [bodyKeys, reportUnlessEmpty]
    | removed => simp [bodyKeys, reportUnlessEmpty]
    | changed => simp [bodyKeys, compared]
  case isFalse skipped =>
    cases outcome with
    | added => rfl
    | removed => rfl
    | changed => simp [bodyKeys, skipped, reportUnlessEmpty, reportsOf]

theorem reportsOf_typeFindings (outcome : Outcome) (detectChanges : Bool) (package : CodePoints)
    (types : ClassDecl × ClassDecl) :
    reportsOf outcome (typeFindings detectChanges package types) =
      reportUnlessEmpty (.methods package types.1.key)
          (presenceKeys Method.key (comparedMethods types.1) (comparedMethods types.2) outcome) ++
        reportUnlessEmpty (.methods package types.1.key) (bodyKeys detectChanges types outcome) := by
  unfold typeFindings
  rw [reportsOf_append, reportsOf_level]
  exact congrArg _ (reportsOf_body outcome detectChanges _ types)

theorem reportsOf_packageFindings (outcome : Outcome) (detectChanges : Bool)
    (packages : Package × Package) :
    reportsOf outcome (packageFindings detectChanges packages) =
      reportUnlessEmpty (.types packages.1.key)
          (presenceKeys ClassDecl.key packages.1.types packages.2.types outcome) ++
        (matchedTypes packages).flatMap fun types =>
          reportsOf outcome (typeFindings detectChanges packages.1.key types) := by
  unfold packageFindings
  rw [reportsOf_append, reportsOf_level, reportsOf_flatMap]
  rfl

theorem reportsOf_findings (outcome : Outcome) (detectChanges : Bool) (left right : Surface) :
    reportsOf outcome (findings detectChanges left right) =
      reportUnlessEmpty .packages
          (presenceKeys Package.key left.packages right.packages outcome) ++
        (matchedPackages left right).flatMap fun packages =>
          reportsOf outcome (packageFindings detectChanges packages) := by
  unfold findings
  rw [reportsOf_append, reportsOf_level, reportsOf_flatMap]
  rfl

/-! ## The keys of changed bodies -/

theorem mem_bodyKeys (detectChanges : Bool) (types : ClassDecl × ClassDecl) (key : CodePoints) :
    key ∈ bodyKeys detectChanges types .changed ↔
      BodyDiffers detectChanges types.1 types.2 key := by
  unfold BodyDiffers
  simp only [bodyKeys, matchedMethods]
  split
  case isTrue compared => simp [mem_changedKeys, compared]
  case isFalse skipped =>
    constructor
    · intro member
      cases member
    · rintro ⟨detects, isNoEnum, _⟩
      exact absurd ⟨isNoEnum, detects⟩ skipped

theorem bodyKeys_increasing (detectChanges : Bool) (types : ClassDecl × ClassDecl) :
    CodePoints.Increasing (bodyKeys detectChanges types .changed) := by
  simp only [bodyKeys]
  split
  case isTrue => exact changedKeys_increasing _ _
  case isFalse => exact List.Pairwise.nil

/-! ## Findings without those about bodies -/

theorem filter_levelFindings (place : Place) (level : CodePoints) (key : α → CodePoints)
    (left right : List α) :
    ((levelFindings place level key left right).filter fun finding =>
        finding.entry.outcome ≠ .changed) = levelFindings place level key left right := by
  refine List.filter_eq_self.mpr fun finding member => ?_
  obtain ⟨_, _, rfl, presence, _⟩ := mem_levelFindings member
  simpa using presence

theorem filter_typeFindings (detectChanges : Bool) (package : CodePoints)
    (types : ClassDecl × ClassDecl) :
    ((typeFindings detectChanges package types).filter fun finding =>
        finding.entry.outcome ≠ .changed) = typeFindings false package types := by
  have parts : ∀ detectChanges, typeFindings detectChanges package types =
      levelFindings (.methods package types.1.key) (methodsLevel types.1) Method.key
          (comparedMethods types.1) (comparedMethods types.2) ++
        bodyFindings detectChanges (.methods package types.1.key) types.1 (matchedMethods types) :=
    fun _ => rfl
  have bodies : ((bodyFindings detectChanges (.methods package types.1.key) types.1
      (matchedMethods types)).filter fun finding => finding.entry.outcome ≠ .changed) = [] := by
    refine List.filter_eq_nil_iff.mpr fun finding member => ?_
    obtain ⟨_, rfl, _⟩ := mem_bodyFindings member
    simp
  have switchedOff : bodyFindings false (.methods package types.1.key) types.1
      (matchedMethods types) = [] := by
    simp [bodyFindings]
  rw [parts, parts, List.filter_append, filter_levelFindings, bodies, switchedOff]

/-- Without its changed bodies, a comparison finds what it finds when bodies are not compared. -/
theorem filter_findings (detectChanges : Bool) (left right : Surface) :
    ((findings detectChanges left right).filter fun finding => finding.entry.outcome ≠ .changed) =
      findings false left right := by
  have packages : ∀ packages : Package × Package,
      ((packageFindings detectChanges packages).filter fun finding =>
        finding.entry.outcome ≠ .changed) = packageFindings false packages := by
    intro packages
    unfold packageFindings
    rw [List.filter_append, filter_levelFindings, List.filter_flatMap]
    simp only [filter_typeFindings]
  unfold findings
  rw [List.filter_append, filter_levelFindings, List.filter_flatMap]
  simp only [packages]

/-! ## Counting reports -/

theorem itemCount_eq_reportsOf (outcome : Outcome) (found : List Finding) :
    itemCount outcome (found.map Finding.entry) =
      ((reportsOf outcome found).flatMap Prod.snd).length := by
  unfold itemCount reportsOf
  rw [List.filter_map, List.flatMap_map, List.flatMap_map]
  rfl

theorem length_eq_reportsOf (found : List Finding) :
    found.length = (reportsOf .removed found).length + (reportsOf .added found).length +
      (reportsOf .changed found).length := by
  induction found with
  | nil => rfl
  | cons finding rest inductionHypothesis =>
      unfold reportsOf at inductionHypothesis ⊢
      cases kind : finding.entry.outcome with
      | added => simp [kind] at inductionHypothesis ⊢; omega
      | removed => simp [kind] at inductionHypothesis ⊢; omega
      | changed => simp [kind] at inductionHypothesis ⊢; omega

/-! ## The reports of one level -/

theorem listsAt_eq_nil {place : Place} {outcome : Outcome} {found : List Finding}
    (elsewhere : ∀ finding ∈ found, finding.place ≠ place) : listsAt place outcome found = [] := by
  unfold listsAt
  rw [List.map_eq_nil_iff, List.filter_eq_nil_iff]
  intro report isReport
  obtain ⟨finding, member, rfl⟩ := List.mem_map.mp isReport
  have known := elsewhere finding (List.mem_filter.mp member).1
  simpa using known

theorem listsAt_append (place : Place) (outcome : Outcome) (first second : List Finding) :
    listsAt place outcome (first ++ second) =
      listsAt place outcome first ++ listsAt place outcome second := by
  simp [listsAt, reportsOf_append]

/-- A type reports its changed bodies once and as a whole. -/
theorem listsAt_changed (detectChanges : Bool) (package : CodePoints)
    (types : ClassDecl × ClassDecl) :
    listsAt (.methods package types.1.key) .changed (typeFindings detectChanges package types) =
      if bodyKeys detectChanges types .changed = [] then []
      else [bodyKeys detectChanges types .changed] := by
  unfold listsAt
  rw [reportsOf_typeFindings]
  by_cases empty : bodyKeys detectChanges types .changed = []
  · simp [presenceKeys, reportUnlessEmpty, empty]
  · simp [presenceKeys, reportUnlessEmpty, empty]

/-- Of items with distinct keys, only the one with the key of a level reports at it. -/
theorem listsAt_flatMap (key : α → CodePoints) {place : Place} (outcome : Outcome)
    {items : List α} {found : α → List Finding} {item : α} (member : item ∈ items)
    (distinct : items.Pairwise fun first second => key first ≠ key second)
    (elsewhere : ∀ other, key other ≠ key item → ∀ finding ∈ found other, finding.place ≠ place) :
    listsAt place outcome (items.flatMap found) = listsAt place outcome (found item) := by
  induction items with
  | nil => cases member
  | cons head rest inductionHypothesis =>
      rw [List.pairwise_cons] at distinct
      obtain ⟨apart, distinct⟩ := distinct
      rw [List.flatMap_cons, listsAt_append]
      rcases List.mem_cons.mp member with rfl | inRest
      · have none : listsAt place outcome (rest.flatMap found) = [] := by
          refine listsAt_eq_nil fun finding isFound => ?_
          obtain ⟨other, inRest, isFound⟩ := List.mem_flatMap.mp isFound
          exact elsewhere other (apart other inRest).symm finding isFound
        rw [none, List.append_nil]
      · have none : listsAt place outcome (found head) = [] :=
          listsAt_eq_nil (elsewhere head (apart item inRest))
        rw [none, List.nil_append]
        exact inductionHypothesis inRest distinct

theorem place_of_mem_levelFindings {place : Place} {level : CodePoints} {key : α → CodePoints}
    {left right : List α} {finding : Finding}
    (member : finding ∈ levelFindings place level key left right) : finding.place = place := by
  obtain ⟨_, _, rfl⟩ := List.mem_map.mp member
  rfl

theorem place_of_mem_typeFindings {detectChanges : Bool} {package : CodePoints}
    {types : ClassDecl × ClassDecl} {finding : Finding}
    (member : finding ∈ typeFindings detectChanges package types) :
    finding.place = .methods package types.1.key := by
  unfold typeFindings at member
  rcases List.mem_append.mp member with inLevel | inBody
  · exact place_of_mem_levelFindings inLevel
  · unfold bodyFindings at inBody
    split at inBody
    case isTrue =>
      obtain ⟨_, _, rfl⟩ := List.mem_map.mp inBody
      rfl
    case isFalse => cases inBody

theorem package?_of_mem_packageFindings {detectChanges : Bool} {packages : Package × Package}
    {finding : Finding} (member : finding ∈ packageFindings detectChanges packages) :
    finding.place.package? = some packages.1.key := by
  unfold packageFindings at member
  rcases List.mem_append.mp member with inLevel | inTypes
  · rw [place_of_mem_levelFindings inLevel]
    rfl
  · obtain ⟨types, _, inType⟩ := List.mem_flatMap.mp inTypes
    rw [place_of_mem_typeFindings inType]
    rfl

/-- What a comparison reports of the methods of a type is what it finds in this type. -/
theorem listsAt_methods (outcome : Outcome) (detectChanges : Bool) {left right : Surface}
    {package name : CodePoints} {first second : ClassDecl}
    (isFirst : left.type? package name = some first)
    (isSecond : right.type? package name = some second) :
    listsAt (.methods package name) outcome (findings detectChanges left right) =
      listsAt (.methods package name) outcome
        (typeFindings detectChanges package (first, second)) := by
  obtain ⟨leftPackage, isLeft, holdsFirst⟩ :=
    (Surface.type?_eq_some_iff left _ _ first).mp isFirst
  obtain ⟨rightPackage, isRight, holdsSecond⟩ :=
    (Surface.type?_eq_some_iff right _ _ second).mp isSecond
  obtain rfl := Package.key_of_package? isLeft
  obtain rfl := ClassDecl.key_of_type? holdsFirst
  have commonPackages : (leftPackage, rightPackage) ∈ matchedPackages left right :=
    (mem_commonPackages left right _ _).mpr ⟨isLeft, isRight⟩
  have commonTypes : (first, second) ∈ matchedTypes (leftPackage, rightPackage) :=
    (mem_commonTypes leftPackage rightPackage _ _).mpr ⟨holdsFirst, holdsSecond⟩
  have topLevel : listsAt (.methods leftPackage.key first.key) outcome
      (levelFindings .packages packagesLevel Package.key left.packages right.packages) = [] := by
    refine listsAt_eq_nil fun finding member => ?_
    rw [place_of_mem_levelFindings member]
    exact nofun
  have typeLevel : listsAt (.methods leftPackage.key first.key) outcome
      (levelFindings (.types leftPackage.key) (typesLevel leftPackage) ClassDecl.key
        leftPackage.types rightPackage.types) = [] := by
    refine listsAt_eq_nil fun finding member => ?_
    rw [place_of_mem_levelFindings member]
    exact nofun
  calc listsAt (.methods leftPackage.key first.key) outcome (findings detectChanges left right)
      = listsAt (.methods leftPackage.key first.key) outcome
          ((matchedPackages left right).flatMap (packageFindings detectChanges)) := by
        unfold findings
        rw [listsAt_append, topLevel]
        rfl
    _ = listsAt (.methods leftPackage.key first.key) outcome
          (packageFindings detectChanges (leftPackage, rightPackage)) := by
        refine listsAt_flatMap (fun packages : Package × Package => packages.1.key) outcome
          commonPackages (common_keys_distinct Package.key _ _) ?_
        intro other apart finding member same
        have inside := package?_of_mem_packageFindings member
        rw [same] at inside
        exact apart (Option.some.inj inside).symm
    _ = listsAt (.methods leftPackage.key first.key) outcome
          ((matchedTypes (leftPackage, rightPackage)).flatMap
            (typeFindings detectChanges leftPackage.key)) := by
        unfold packageFindings
        rw [listsAt_append, typeLevel]
        rfl
    _ = listsAt (.methods leftPackage.key first.key) outcome
          (typeFindings detectChanges leftPackage.key (first, second)) := by
        refine listsAt_flatMap (fun types : ClassDecl × ClassDecl => types.1.key) outcome
          commonTypes (common_keys_distinct ClassDecl.key _ _) ?_
        intro other apart finding member same
        rw [place_of_mem_typeFindings member] at same
        exact apart (Place.methods.inj same).2

/-- The changed methods that a comparison reports of a type are those whose bodies differ in it. -/
theorem flatten_listsAt_changed (detectChanges : Bool) {left right : Surface}
    {package name : CodePoints} {first second : ClassDecl}
    (isFirst : left.type? package name = some first)
    (isSecond : right.type? package name = some second) :
    (listsAt (.methods package name) .changed (findings detectChanges left right)).flatten =
      bodyKeys detectChanges (first, second) .changed := by
  obtain rfl := Surface.key_of_type? isFirst
  have inside := listsAt_changed detectChanges package (first, second)
  rw [listsAt_methods .changed detectChanges isFirst isSecond, inside]
  by_cases empty : bodyKeys detectChanges (first, second) .changed = []
  · rw [if_pos empty, empty]
    rfl
  · rw [if_neg empty, List.flatten_singleton]

/-- Nothing is reported of the methods of a type that one side does not hold. -/
theorem listsAt_methods_of_missing (outcome : Outcome) (detectChanges : Bool) {left right : Surface}
    {package name : CodePoints}
    (missing : left.type? package name = none ∨ right.type? package name = none) :
    listsAt (.methods package name) outcome (findings detectChanges left right) = [] := by
  refine listsAt_eq_nil fun finding member same => ?_
  obtain ⟨key, isItem⟩ := List.exists_mem_of_ne_nil _ (labelled_of_mem_findings member).2
  have handed : ⟨finding.place, finding.entry.outcome, key⟩ ∈
      handedOver (findings detectChanges left right) :=
    List.mem_flatMap.mpr ⟨finding, member, List.mem_map.mpr ⟨key, isItem, rfl⟩⟩
  rw [mem_handedOver, same] at handed
  obtain ⟨first, second, isFirst, isSecond, _⟩ := handed
  rcases missing with missing | missing
  · rw [missing] at isFirst
    cases isFirst
  · rw [missing] at isSecond
    cases isSecond

end SurfaceDiff.Comparison
