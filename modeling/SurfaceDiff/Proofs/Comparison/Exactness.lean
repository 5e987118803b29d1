import SurfaceDiff.Proofs.Comparison.Findings
import SurfaceDiff.Proofs.Comparison.Lookup

/-!
Contract: which items a comparison reports, said in terms of what the two surfaces hold.

Owns: the predicate `Differs` on single items, the agreement of two surfaces, and the theorem that a
comparison hands over the items that differ, each once, under the level they belong to.
Does not own: the order of the entries.
-/

namespace SurfaceDiff

open Text

namespace Comparison

/-! ## What differs -/

/-- One item of an entry, with the level and the outcome under which it is reported. -/
structure Item where
  place : Place
  outcome : Outcome
  key : CodePoints

/-- Held by one side only: removed if that is the left one, added if it is the right one. -/
def PresenceDiffers {α : Type} (left right : Option α) : Outcome → Prop
  | .removed => left.isSome ∧ right = none
  | .added => left = none ∧ right.isSome
  | .changed => False

/-- Held by both types with different bodies, where the bodies of the left type are compared. -/
def BodyDiffers (detectChanges : Bool) (left right : ClassDecl) (key : CodePoints) : Prop :=
  detectChanges = true ∧ left.isEnum = false ∧ ∃ first second,
    left.method? key = some first ∧ right.method? key = some second ∧
    ¬IsBodyExcluded first.name ∧ first.code ≠ second.code

/-- What there is to report. Inside a package or a type items differ only if both sides hold it. -/
def Differs (detectChanges : Bool) (left right : Surface) : Item → Prop
  | ⟨.packages, outcome, name⟩ =>
    PresenceDiffers (left.package? name) (right.package? name) outcome
  | ⟨.types package, outcome, name⟩ => ∃ first second,
    left.package? package = some first ∧ right.package? package = some second ∧
    PresenceDiffers (first.type? name) (second.type? name) outcome
  | ⟨.methods package type, outcome, key⟩ => ∃ first second,
    left.type? package type = some first ∧ right.type? package type = some second ∧
    (PresenceDiffers (first.method? key) (second.method? key) outcome ∨
      outcome = .changed ∧ BodyDiffers detectChanges first second key)

/-- The text by which an entry names its level. -/
inductive Labelled (left : Surface) : Finding → Prop where
  | packages (outcome : Outcome) (items : List CodePoints) :
    Labelled left ⟨.packages, .ofString "packages", outcome, items⟩
  | types {name : CodePoints} {package : Package} (found : left.package? name = some package)
    (outcome : Outcome) (items : List CodePoints) :
    Labelled left ⟨.types name, .ofString "classes in package " ++ package.name, outcome, items⟩
  | methods {package name : CodePoints} {decl : ClassDecl}
    (found : left.type? package name = some decl) (outcome : Outcome) (items : List CodePoints)
    (presence : outcome ≠ .changed) :
    Labelled left
      ⟨.methods package name, .ofString ("methods in class " ++ decl.qualifiedName), outcome, items⟩
  | bodies {package name : CodePoints} {decl : ClassDecl}
    (found : left.type? package name = some decl) (items : List CodePoints) :
    Labelled left
      ⟨.methods package name, .ofString ("methods in type " ++ decl.qualifiedName), .changed, items⟩

/-- The same packages, types and methods, with the same bodies where bodies are compared. -/
structure Agree (detectChanges : Bool) (left right : Surface) : Prop where
  packages : ∀ name, (left.package? name).isSome ↔ (right.package? name).isSome
  types : ∀ package name, (left.type? package name).isSome ↔ (right.type? package name).isSome
  methods : ∀ package name first second,
    left.type? package name = some first → right.type? package name = some second →
    ∀ key, (first.method? key).isSome ↔ (second.method? key).isSome
  bodies : ∀ package name first second,
    left.type? package name = some first → right.type? package name = some second →
    detectChanges = true → first.isEnum = false → ∀ key before after,
    first.method? key = some before → second.method? key = some after →
    ¬IsBodyExcluded before.name → before.code = after.code

/-! ## The items of the findings -/

def Finding.items (finding : Finding) : List Item :=
  finding.entry.items.map (Item.mk finding.place finding.entry.outcome)

def handedOver (found : List Finding) : List Item :=
  found.flatMap Finding.items

theorem handedOver_append (first second : List Finding) :
    handedOver (first ++ second) = handedOver first ++ handedOver second :=
  List.flatMap_append

theorem handedOver_flatMap {α : Type} (items : List α) (found : α → List Finding) :
    handedOver (items.flatMap found) = items.flatMap fun item => handedOver (found item) :=
  List.flatMap_assoc

theorem handedOver_entry (place : Place) (level : CodePoints) (outcome : Outcome)
    (keys : List CodePoints) :
    handedOver ((Reconciliation.entry? level outcome keys).map (Finding.mk place)) =
      keys.map (Item.mk place outcome) := by
  unfold Reconciliation.entry?
  by_cases empty : keys = []
  · simp [empty, handedOver]
  · simp [empty, handedOver, Finding.items]

theorem handedOver_level {α : Type} (place : Place) (level : CodePoints) (key : α → CodePoints)
    (left right : List α) :
    handedOver (levelFindings place level key left right) =
      (reconcile key left right).result.removed.map (Item.mk place .removed) ++
        (reconcile key left right).result.added.map (Item.mk place .added) := by
  unfold levelFindings Reconciliation.entries
  rw [List.map_append, handedOver_append, handedOver_entry, handedOver_entry]

theorem handedOver_body (detectChanges : Bool) (place : Place) (left : ClassDecl)
    (pairs : List (Method × Method)) :
    handedOver (bodyFindings detectChanges place left pairs) =
      if left.isEnum = false ∧ detectChanges = true then
        (changedKeys pairs).map (Item.mk place .changed)
      else [] := by
  unfold bodyFindings
  split
  · exact handedOver_entry place _ .changed _
  · rfl

/-! ## Which items are handed over -/

theorem mem_map_item (place : Place) (outcome : Outcome) (keys : List CodePoints) (item : Item) :
    item ∈ keys.map (Item.mk place outcome) ↔
      item.place = place ∧ item.outcome = outcome ∧ item.key ∈ keys := by
  rw [List.mem_map]
  constructor
  · intro mapped
    rcases mapped with ⟨key, member, rfl⟩
    exact ⟨rfl, rfl, member⟩
  · intro described
    rcases described with ⟨rfl, rfl, member⟩
    exact ⟨item.key, member, rfl⟩

theorem mem_handedOver_level {α : Type} (place : Place) (level : CodePoints) (key : α → CodePoints)
    (left right : List α) (item : Item) :
    item ∈ handedOver (levelFindings place level key left right) ↔
      item.place = place ∧
        PresenceDiffers (firstWithKey key left item.key) (firstWithKey key right item.key)
          item.outcome := by
  rw [handedOver_level, List.mem_append, mem_map_item, mem_map_item, mem_removed, mem_added,
    ← and_or_left]
  apply and_congr_right
  intro _
  cases item.outcome with
  | removed => simp [PresenceDiffers]
  | added => simp [PresenceDiffers]
  | changed => simp [PresenceDiffers]

theorem mem_changedKeys (left right : ClassDecl) (key : CodePoints) :
    key ∈ changedKeys
        (reconcile Method.key (comparedMethods left) (comparedMethods right)).result.common ↔
      ∃ first second, left.method? key = some first ∧ right.method? key = some second ∧
        ¬IsBodyExcluded first.name ∧ first.code ≠ second.code := by
  unfold changedKeys BodyChanged
  simp only [List.mem_map, List.mem_filter, Prod.exists, mem_commonMethods]
  constructor
  · intro changed
    rcases changed with ⟨first, second, ⟨⟨isFirst, isSecond⟩, differ⟩, rfl⟩
    exact ⟨first, second, isFirst, isSecond, of_decide_eq_true differ⟩
  · intro found
    rcases found with ⟨first, second, isFirst, isSecond, differ⟩
    obtain rfl := ClassDecl.key_of_method? isFirst
    exact ⟨first, second, ⟨⟨isFirst, isSecond⟩, decide_eq_true differ⟩, rfl⟩

theorem mem_handedOver_body (detectChanges : Bool) (place : Place) (left right : ClassDecl)
    (item : Item) :
    item ∈ handedOver (bodyFindings detectChanges place left
        (reconcile Method.key (comparedMethods left) (comparedMethods right)).result.common) ↔
      item.place = place ∧ item.outcome = .changed ∧
        BodyDiffers detectChanges left right item.key := by
  rw [handedOver_body]
  unfold BodyDiffers
  split
  case isTrue compared =>
    rw [mem_map_item, mem_changedKeys]
    simp [compared]
  case isFalse skipped =>
    constructor
    · intro member
      cases member
    · intro differs
      rcases differs with ⟨_, _, detects, isNoEnum, _⟩
      exact absurd ⟨isNoEnum, detects⟩ skipped

theorem mem_handedOver_type (detectChanges : Bool) (package : CodePoints) (left right : ClassDecl)
    (item : Item) :
    item ∈ handedOver (typeFindings detectChanges package (left, right)) ↔
      item.place = .methods package left.key ∧
        (PresenceDiffers (left.method? item.key) (right.method? item.key) item.outcome ∨
          item.outcome = .changed ∧ BodyDiffers detectChanges left right item.key) := by
  unfold typeFindings
  rw [handedOver_append, List.mem_append, mem_handedOver_level, mem_handedOver_body,
    ← ClassDecl.method?_eq_firstWithKey, ← ClassDecl.method?_eq_firstWithKey, ← and_or_left]

theorem mem_handedOver_package (detectChanges : Bool) (left right : Package) (item : Item) :
    item ∈ handedOver (packageFindings detectChanges (left, right)) ↔
      (item.place = .types left.key ∧
        PresenceDiffers (left.type? item.key) (right.type? item.key) item.outcome) ∨
      ∃ first second, left.type? first.key = some first ∧ right.type? first.key = some second ∧
        item ∈ handedOver (typeFindings detectChanges left.key (first, second)) := by
  unfold packageFindings
  rw [handedOver_append, List.mem_append, mem_handedOver_level, handedOver_flatMap,
    List.mem_flatMap]
  simp only [Prod.exists, mem_commonTypes, and_assoc]
  rfl

theorem mem_handedOver_surface (detectChanges : Bool) (left right : Surface) (item : Item) :
    item ∈ handedOver (findings detectChanges left right) ↔
      (item.place = .packages ∧
        PresenceDiffers (left.package? item.key) (right.package? item.key) item.outcome) ∨
      ∃ first second, left.package? first.key = some first ∧
        right.package? first.key = some second ∧
        item ∈ handedOver (packageFindings detectChanges (first, second)) := by
  unfold findings
  rw [handedOver_append, List.mem_append, mem_handedOver_level, handedOver_flatMap,
    List.mem_flatMap]
  simp only [Prod.exists, mem_commonPackages, and_assoc]
  rfl

/-- The items handed over are the items that differ. -/
theorem mem_handedOver (detectChanges : Bool) (left right : Surface) (item : Item) :
    item ∈ handedOver (findings detectChanges left right) ↔
      Differs detectChanges left right item := by
  obtain ⟨place, outcome, key⟩ := item
  cases place with
  | packages =>
      simp [mem_handedOver_surface, mem_handedOver_package, mem_handedOver_type, Differs]
  | types package =>
      simp only [mem_handedOver_surface, mem_handedOver_package, mem_handedOver_type, Differs,
        reduceCtorEq, Place.types.injEq, false_and, and_false, exists_false, or_false, false_or]
      constructor
      · intro member
        rcases member with ⟨first, second, isFirst, isSecond, rfl, differ⟩
        exact ⟨first, second, isFirst, isSecond, differ⟩
      · intro differs
        rcases differs with ⟨first, second, isFirst, isSecond, differ⟩
        obtain rfl := Package.key_of_package? isFirst
        exact ⟨first, second, isFirst, isSecond, rfl, differ⟩
  | methods package type =>
      simp only [mem_handedOver_surface, mem_handedOver_package, mem_handedOver_type, Differs,
        reduceCtorEq, Place.methods.injEq, false_and, false_or, Surface.type?_eq_some_iff]
      constructor
      · intro member
        rcases member with ⟨left, right, isLeft, isRight, first, second, isFirst, isSecond, ⟨rfl, rfl⟩, differ⟩
        exact ⟨first, second, ⟨left, isLeft, isFirst⟩, ⟨right, isRight, isSecond⟩, differ⟩
      · intro differs
        rcases differs with ⟨first, second, ⟨left, isLeft, isFirst⟩, ⟨right, isRight, isSecond⟩, differ⟩
        obtain rfl := Package.key_of_package? isLeft
        obtain rfl := ClassDecl.key_of_type? isFirst
        exact ⟨left, right, isLeft, isRight, first, second, isFirst, isSecond, ⟨rfl, rfl⟩, differ⟩

/-! ## No item is handed over twice

Items of different levels differ in their place, items of one level in outcome or key. -/

theorem nodup_map_item (place : Place) (outcome : Outcome) {keys : List CodePoints}
    (increasing : CodePoints.Increasing keys) : (keys.map (Item.mk place outcome)).Nodup :=
  List.pairwise_map.mpr (increasing.nodup.imp fun distinct same => distinct (Item.mk.inj same).2.2)

theorem nodup_handedOver_level {α : Type} (place : Place) (level : CodePoints) (key : α → CodePoints)
    (left right : List α) : (handedOver (levelFindings place level key left right)).Nodup := by
  rw [handedOver_level, List.nodup_append]
  refine ⟨nodup_map_item place .removed (removed_increasing key left right),
    nodup_map_item place .added (added_increasing key left right), ?_⟩
  intro first isRemoved second isAdded same
  rw [mem_map_item] at isRemoved isAdded
  subst same
  cases isRemoved.2.1.symm.trans isAdded.2.1

theorem nodup_handedOver_type (detectChanges : Bool) (package : CodePoints)
    (types : ClassDecl × ClassDecl) :
    (handedOver (typeFindings detectChanges package types)).Nodup := by
  obtain ⟨left, right⟩ := types
  unfold typeFindings
  rw [handedOver_append, List.nodup_append]
  refine ⟨nodup_handedOver_level _ _ _ _ _, ?_, ?_⟩
  · rw [handedOver_body]
    split
    · exact nodup_map_item _ _ (changedKeys_increasing _ _)
    · exact List.nodup_nil
  · intro first inLevel second inBody same
    rw [mem_handedOver_level] at inLevel
    rw [mem_handedOver_body] at inBody
    subst same
    have differs := inLevel.2
    rw [inBody.2.1] at differs
    exact differs

/-- The pairs of a level have distinct keys. -/
theorem common_keys_distinct {α : Type} (key : α → CodePoints) (left right : List α) :
    (reconcile key left right).result.common.Pairwise fun first second =>
      key first.1 ≠ key second.1 :=
  List.pairwise_map.mp (common_increasing key left right).nodup

theorem nodup_handedOver_package (detectChanges : Bool) (packages : Package × Package) :
    (handedOver (packageFindings detectChanges packages)).Nodup := by
  obtain ⟨left, right⟩ := packages
  unfold packageFindings
  rw [handedOver_append, handedOver_flatMap, List.nodup_append]
  refine ⟨nodup_handedOver_level _ _ _ _ _, List.pairwise_flatMap.mpr ⟨?_, ?_⟩, ?_⟩
  · intro types _
    exact nodup_handedOver_type detectChanges left.key types
  · refine (common_keys_distinct ClassDecl.key left.types right.types).imp ?_
    intro first second distinct item inFirst other inSecond same
    subst same
    rw [mem_handedOver_type] at inFirst inSecond
    exact distinct (Place.methods.inj (inFirst.1.symm.trans inSecond.1)).2
  · intro first inLevel second inTypes same
    rw [mem_handedOver_level] at inLevel
    obtain ⟨⟨_, _⟩, _, inType⟩ := List.mem_flatMap.mp inTypes
    rw [mem_handedOver_type] at inType
    subst same
    cases inLevel.1.symm.trans inType.1

theorem package?_of_mem_handedOver_package {detectChanges : Bool} {packages : Package × Package}
    {item : Item} (member : item ∈ handedOver (packageFindings detectChanges packages)) :
    item.place.package? = some packages.1.key := by
  rw [mem_handedOver_package] at member
  rcases member with ⟨place, _⟩ | ⟨_, _, _, _, inType⟩
  · rw [place]
    rfl
  · rw [mem_handedOver_type] at inType
    rw [inType.1]
    rfl

theorem nodup_handedOver (detectChanges : Bool) (left right : Surface) :
    (handedOver (findings detectChanges left right)).Nodup := by
  unfold findings
  rw [handedOver_append, handedOver_flatMap, List.nodup_append]
  refine ⟨nodup_handedOver_level _ _ _ _ _, List.pairwise_flatMap.mpr ⟨?_, ?_⟩, ?_⟩
  · intro packages _
    exact nodup_handedOver_package detectChanges packages
  · refine (common_keys_distinct Package.key left.packages right.packages).imp ?_
    intro first second distinct item inFirst other inSecond same
    have place := package?_of_mem_handedOver_package inFirst
    rw [same, package?_of_mem_handedOver_package inSecond] at place
    exact distinct (Option.some.inj place).symm
  · intro first inLevel second inPackages same
    rw [mem_handedOver_level] at inLevel
    obtain ⟨packages, _, inPackage⟩ := List.mem_flatMap.mp inPackages
    have place := package?_of_mem_handedOver_package inPackage
    rw [← same, inLevel.1] at place
    cases place

/-! ## The label of each finding -/

theorem mem_levelFindings {α : Type} {place : Place} {level : CodePoints} {key : α → CodePoints}
    {left right : List α} {finding : Finding}
    (member : finding ∈ levelFindings place level key left right) :
    ∃ outcome items, finding = ⟨place, level, outcome, items⟩ ∧ outcome ≠ .changed ∧ items ≠ [] := by
  unfold levelFindings Reconciliation.entries Reconciliation.entry? at member
  rw [List.map_append, List.mem_append] at member
  rcases member with isRemoved | isAdded
  · split at isRemoved
    · cases isRemoved
    · exact ⟨.removed, _, List.mem_singleton.mp isRemoved, by decide, ‹_›⟩
  · split at isAdded
    · cases isAdded
    · exact ⟨.added, _, List.mem_singleton.mp isAdded, by decide, ‹_›⟩

theorem mem_bodyFindings {detectChanges : Bool} {place : Place} {left : ClassDecl}
    {pairs : List (Method × Method)} {finding : Finding}
    (member : finding ∈ bodyFindings detectChanges place left pairs) :
    ∃ items, finding = ⟨place, bodiesLevel left, .changed, items⟩ ∧ items ≠ [] := by
  unfold bodyFindings Reconciliation.entry? at member
  split at member
  · split at member
    · cases member
    · exact ⟨_, List.mem_singleton.mp member, ‹_›⟩
  · cases member

/-- Each finding names its level by the text for its place, and is about at least one item. -/
theorem labelled_of_mem_findings {detectChanges : Bool} {left right : Surface} {finding : Finding}
    (member : finding ∈ findings detectChanges left right) :
    Labelled left finding ∧ finding.entry.items ≠ [] := by
  unfold findings at member
  rcases List.mem_append.mp member with inLevel | inPackages
  · obtain ⟨outcome, items, rfl, _, nonempty⟩ := mem_levelFindings inLevel
    exact ⟨.packages outcome items, nonempty⟩
  obtain ⟨⟨package, other⟩, common, inPackage⟩ := List.mem_flatMap.mp inPackages
  have isPackage := ((mem_commonPackages left right package other).mp common).1
  unfold packageFindings at inPackage
  rcases List.mem_append.mp inPackage with inLevel | inTypes
  · obtain ⟨outcome, items, rfl, _, nonempty⟩ := mem_levelFindings inLevel
    exact ⟨.types isPackage outcome items, nonempty⟩
  obtain ⟨⟨decl, counterpart⟩, commonTypes, inType⟩ := List.mem_flatMap.mp inTypes
  have isType : left.type? package.key decl.key = some decl :=
    (Surface.type?_eq_some_iff left _ _ decl).mpr
      ⟨package, isPackage, ((mem_commonTypes package other decl counterpart).mp commonTypes).1⟩
  unfold typeFindings at inType
  rcases List.mem_append.mp inType with inLevel | inBody
  · obtain ⟨outcome, items, rfl, presence, nonempty⟩ := mem_levelFindings inLevel
    exact ⟨.methods isType outcome items presence, nonempty⟩
  · obtain ⟨items, rfl, nonempty⟩ := mem_bodyFindings inBody
    exact ⟨.bodies isType items, nonempty⟩

/-! ## Surfaces between which nothing differs -/

theorem presence_agrees_iff {α : Type} (left right : Option α) :
    (∀ outcome, ¬PresenceDiffers left right outcome) ↔ (left.isSome ↔ right.isSome) := by
  constructor
  · intro agrees
    have kept := agrees .removed
    have old := agrees .added
    cases left <;> cases right <;> simp_all [PresenceDiffers]
  · intro agrees outcome differs
    cases outcome <;> cases left <;> cases right <;> simp_all [PresenceDiffers]

theorem not_differs_of_agree {detectChanges : Bool} {left right : Surface}
    (agree : Agree detectChanges left right) (item : Item) :
    ¬Differs detectChanges left right item := by
  obtain ⟨place, outcome, key⟩ := item
  intro differs
  cases place with
  | packages => exact (presence_agrees_iff _ _).mpr (agree.packages key) outcome differs
  | types package =>
      obtain ⟨first, second, isFirst, isSecond, presence⟩ := differs
      have types := agree.types package key
      rw [Surface.type?_of_package? isFirst, Surface.type?_of_package? isSecond] at types
      exact (presence_agrees_iff _ _).mpr types outcome presence
  | methods package name =>
      obtain ⟨first, second, isFirst, isSecond, presence | body⟩ := differs
      · have methods := agree.methods package name first second isFirst isSecond key
        exact (presence_agrees_iff _ _).mpr methods outcome presence
      · obtain ⟨_, detects, isNoEnum, before, after, isBefore, isAfter, compared, changed⟩ := body
        exact changed (agree.bodies package name first second isFirst isSecond detects isNoEnum key
          before after isBefore isAfter compared)

theorem agree_of_not_differs {detectChanges : Bool} {left right : Surface}
    (same : ∀ item, ¬Differs detectChanges left right item) : Agree detectChanges left right := by
  have packages : ∀ name, (left.package? name).isSome ↔ (right.package? name).isSome :=
    fun name => (presence_agrees_iff _ _).mp fun outcome => same ⟨.packages, outcome, name⟩
  constructor
  case packages => exact packages
  case types =>
    intro package name
    have agrees := packages package
    cases isFirst : left.package? package with
    | none =>
        cases isSecond : right.package? package with
        | none => simp [Surface.type?, isFirst, isSecond]
        | some second => simp [isFirst, isSecond] at agrees
    | some first =>
        cases isSecond : right.package? package with
        | none => simp [isFirst, isSecond] at agrees
        | some second =>
            rw [Surface.type?_of_package? isFirst, Surface.type?_of_package? isSecond]
            refine (presence_agrees_iff _ _).mp fun outcome presence => ?_
            exact same ⟨.types package, outcome, name⟩ ⟨first, second, isFirst, isSecond, presence⟩
  case methods =>
    intro package name first second isFirst isSecond key
    refine (presence_agrees_iff _ _).mp fun outcome presence => ?_
    exact same ⟨.methods package name, outcome, key⟩
      ⟨first, second, isFirst, isSecond, .inl presence⟩
  case bodies =>
    intro package name first second isFirst isSecond detects isNoEnum key before after isBefore
      isAfter compared
    refine Decidable.not_not.mp fun changed => ?_
    exact same ⟨.methods package name, .changed, key⟩ ⟨first, second, isFirst, isSecond,
      .inr ⟨rfl, detects, isNoEnum, before, after, isBefore, isAfter, compared, changed⟩⟩

theorem agree_iff (detectChanges : Bool) (left right : Surface) :
    Agree detectChanges left right ↔ ∀ item, ¬Differs detectChanges left right item :=
  ⟨not_differs_of_agree, agree_of_not_differs⟩

theorem findings_eq_nil_iff (detectChanges : Bool) (left right : Surface) :
    findings detectChanges left right = [] ↔ Agree detectChanges left right := by
  rw [agree_iff]
  constructor
  · intro nothing item differs
    rw [← mem_handedOver, nothing] at differs
    cases differs
  · intro agree
    refine List.eq_nil_iff_forall_not_mem.mpr fun finding member => ?_
    obtain ⟨key, isItem⟩ := List.exists_mem_of_ne_nil _ (labelled_of_mem_findings member).2
    refine agree ⟨finding.place, finding.entry.outcome, key⟩ ((mem_handedOver _ _ _ _).mp ?_)
    exact List.mem_flatMap.mpr ⟨finding, member, List.mem_map.mpr ⟨key, isItem, rfl⟩⟩

/-- The same packages agree, whatever archives they come from. -/
theorem agree_of_packages_eq {left right : Surface} (same : left.packages = right.packages)
    (detectChanges : Bool) : Agree detectChanges left right := by
  have types : ∀ package name, left.type? package name = right.type? package name := by
    intro package name
    unfold Surface.type? Surface.package?
    rw [same]
  constructor
  case packages =>
    intro name
    unfold Surface.package?
    rw [same]
  case types =>
    intro package name
    rw [types]
  case methods =>
    intro package name first second isFirst isSecond key
    rw [types, isSecond] at isFirst
    cases isFirst
    rfl
  case bodies =>
    intro package name first second isFirst isSecond _ _ key before after isBefore isAfter _
    rw [types, isSecond] at isFirst
    cases isFirst
    rw [isBefore] at isAfter
    cases isAfter
    rfl

/-- **A comparison reports what differs, and nothing else.** It hands findings to its sink whose
items are those that differ, each once and under the label of its level; there is no finding just
when the two surfaces agree. -/
theorem compare_reports_differences (detectChanges : Bool) (left right : Surface) :
    (∀ (σ : Type) (sink : Sink σ) (state : σ),
      (Surface.compare ⟨sink, detectChanges⟩ state left right).state =
        (findings detectChanges left right).foldl
          (fun state finding => sink.report state finding.entry) state) ∧
    (∀ finding ∈ findings detectChanges left right, Labelled left finding) ∧
    (handedOver (findings detectChanges left right)).Nodup ∧
    (∀ item, item ∈ handedOver (findings detectChanges left right) ↔
      Differs detectChanges left right item) ∧
    (findings detectChanges left right = [] ↔ Agree detectChanges left right) := by
  refine ⟨fun σ sink state => state_compare _ state left right, ?_, ?_, ?_, ?_⟩
  · exact fun finding member => (labelled_of_mem_findings member).1
  · exact nodup_handedOver detectChanges left right
  · exact mem_handedOver detectChanges left right
  · exact findings_eq_nil_iff detectChanges left right

end Comparison

end SurfaceDiff
