import SurfaceDiff.Comparison
import SurfaceDiff.Proofs.Repetition

/-!
Contract: the whole law of reconciling two lists by a key.

Owns: `Reconciled.Partitions`, in which the two lists alone say what a result holds, in which order, how
much of it and what is logged; and the theorem that `reconcile` yields such a result for all lists and
all keys, with the parts exchanged when the sides are.
Does not own: the levels of a comparison, which are reconciled one by one.

The key may send different items to one text, and either list may hold any number of items of a key.
-/

namespace SurfaceDiff

open Text

variable {α : Type}

/-- Some item of the list has the key. -/
def HoldsKey (key : α → CodePoints) (items : List α) (wanted : CodePoints) : Prop :=
  ∃ item ∈ items, key item = wanted

namespace Reconciliation

/-- The keys for which there is a pair, in the order of the pairs. -/
def commonKeys (key : α → CodePoints) (result : Reconciliation α) : List CodePoints :=
  result.common.map fun pair => key pair.1

/-- The result as seen from the other side. -/
def swap (result : Reconciliation α) : Reconciliation α where
  removed := result.added
  added := result.removed
  common := result.common.map Prod.swap

end Reconciliation

/-- The level and the message of the record about an item that was left out. -/
def ignoredRecord (key : α → CodePoints) (item : α) : Log.Level × String :=
  (.debug, "Ignoring duplicate item for key " ++ Quoted.encode (key item))

/-- What there is to say about the reconciliation of two lists. -/
structure Reconciled.Partitions (key : α → CodePoints) (left right : List α)
    (reconciled : Reconciled α) : Prop where
  removed_increasing : CodePoints.Increasing reconciled.result.removed
  added_increasing : CodePoints.Increasing reconciled.result.added
  common_increasing : CodePoints.Increasing (reconciled.result.commonKeys key)
  removed_iff : ∀ wanted, wanted ∈ reconciled.result.removed ↔
    HoldsKey key left wanted ∧ ¬HoldsKey key right wanted
  added_iff : ∀ wanted, wanted ∈ reconciled.result.added ↔
    HoldsKey key right wanted ∧ ¬HoldsKey key left wanted
  common_iff : ∀ wanted, wanted ∈ reconciled.result.commonKeys key ↔
    HoldsKey key left wanted ∧ HoldsKey key right wanted
  pair_of_key : ∀ wanted, HoldsKey key left wanted → HoldsKey key right wanted →
    ∃ first second, firstWithKey key left wanted = some first ∧
      firstWithKey key right wanted = some second ∧
      reconciled.result.common.filter (fun pair => key pair.1 = wanted) = [(first, second)]
  disjoint : reconciled.result.removed.Disjoint reconciled.result.added
  left_keys : ∀ wanted, wanted ∈ reconciled.result.removed ++ reconciled.result.commonKeys key ↔
    HoldsKey key left wanted
  right_keys : ∀ wanted, wanted ∈ reconciled.result.added ++ reconciled.result.commonKeys key ↔
    HoldsKey key right wanted
  left_length : left.length = reconciled.result.removed.length + reconciled.result.common.length +
    (repetitions key left).length
  right_length : right.length = reconciled.result.added.length + reconciled.result.common.length +
    (repetitions key right).length
  records : ∀ {σ : Type} (run : Run σ),
    (run.logRepeated reconciled.repeated).events.toList.map
        (fun event => (event.level, event.record.message)) =
      run.events.toList.map (fun event => (event.level, event.record.message)) ++
        (repetitions key left ++ repetitions key right).map (ignoredRecord key)

/-! ## Keys -/

theorem isSome_firstWithKey (key : α → CodePoints) (items : List α) (wanted : CodePoints) :
    (firstWithKey key items wanted).isSome ↔ HoldsKey key items wanted := by
  simp [firstWithKey, HoldsKey]

theorem firstWithKey_eq_none_iff (key : α → CodePoints) (items : List α) (wanted : CodePoints) :
    firstWithKey key items wanted = none ↔ ¬HoldsKey key items wanted := by
  rw [← isSome_firstWithKey, Option.not_isSome_iff_eq_none]

/-! ## Sides -/

section Reconcile

variable (key : α → CodePoints) (left right : List α)

theorem reconcile_swap :
    (reconcile key right left).result = (reconcile key left right).result.swap :=
  congrArg (Reconciliation.mk _ _) (common_swap key left right)

theorem mem_removed_iff_holdsKey (wanted : CodePoints) :
    wanted ∈ (reconcile key left right).result.removed ↔
      HoldsKey key left wanted ∧ ¬HoldsKey key right wanted := by
  rw [mem_removed, isSome_firstWithKey, firstWithKey_eq_none_iff]

theorem mem_commonKeys_iff_holdsKey (wanted : CodePoints) :
    wanted ∈ (reconcile key left right).result.commonKeys key ↔
      HoldsKey key left wanted ∧ HoldsKey key right wanted := by
  unfold Reconciliation.commonKeys
  rw [mem_commonKeys, isSome_firstWithKey, isSome_firstWithKey]

/-- A key of the left list is removed or common, whatever the right one holds. -/
theorem mem_removed_append_commonKeys (wanted : CodePoints) :
    wanted ∈ (reconcile key left right).result.removed ++
        (reconcile key left right).result.commonKeys key ↔
      HoldsKey key left wanted := by
  rw [List.mem_append, mem_removed_iff_holdsKey, mem_commonKeys_iff_holdsKey, ← and_or_left]
  exact and_iff_left (Classical.em _).symm

/-- Keys of pairs do not repeat, so a key that both lists hold selects one pair. -/
theorem filter_common {wanted : CodePoints} {first second : α}
    (isFirst : firstWithKey key left wanted = some first)
    (isSecond : firstWithKey key right wanted = some second) :
    (reconcile key left right).result.common.filter (fun pair => key pair.1 = wanted) =
      [(first, second)] := by
  obtain rfl := key_of_firstWithKey isFirst
  have paired := (mem_common key left right first second).mpr ⟨isFirst, isSecond⟩
  have distinct : ((reconcile key left right).result.common.map fun pair => key pair.1).Nodup :=
    (common_increasing key left right).nodup
  -- Two lists without repetition, one of them a single pair, so members decide.
  refine List.perm_singleton.mp ((List.perm_ext_iff_of_nodup (distinct.of_map.filter _)
    (List.nodup_singleton _)).mpr fun pair => ?_)
  rw [List.mem_filter, List.mem_singleton, decide_eq_true_eq]
  constructor
  · intro selected
    exact List.inj_on_of_nodup_map distinct selected.1 paired selected.2
  · rintro rfl
    exact ⟨paired, rfl⟩

/-! ## Records -/

theorem events_logRepeated {σ : Type} (run : Run σ) (keys : List CodePoints) :
    (run.logRepeated keys).events.toList = run.events.toList ++ keys.map .repeatedKey := by
  unfold Run.logRepeated
  induction keys generalizing run with
  | nil => exact (List.append_nil _).symm
  | cons wanted rest inductionHypothesis =>
      rw [List.foldl_cons, inductionHypothesis]
      simp [Run.log]

theorem repeated_reconcile :
    (reconcile key left right).repeated =
      (repetitions key left ++ repetitions key right).map key := by
  rw [List.map_append, ← Index.repeated_ofList, ← Index.repeated_ofList]
  rfl

theorem record_repeatedKey (item : α) :
    ((Log.Event.repeatedKey (key item)).level, (Log.Event.repeatedKey (key item)).record.message) =
      ignoredRecord key item := by
  simp [Log.Event.level, Log.Event.record, Log.Event.parts, Log.Record.message, Log.Part.inMessage,
    Log.Argument.shown, ignoredRecord, String.join]

/-- **Reconciling parts two lists by key.** Whatever the lists and the key, the result holds the keys of
one side only and the first items of each common key, all in increasing order of keys, each item that
is left out is logged, and exchanging the lists exchanges the parts. -/
theorem reconcile_partitions :
    (reconcile key left right).Partitions key left right ∧
      (reconcile key right left).result = (reconcile key left right).result.swap := by
  have sides := reconcile_swap key left right
  have added : (reconcile key left right).result.added =
      (reconcile key right left).result.removed := by
    rw [sides]
    rfl
  have commonKeys : ∀ wanted, wanted ∈ (reconcile key left right).result.commonKeys key ↔
      wanted ∈ (reconcile key right left).result.commonKeys key := by
    intro wanted
    rw [mem_commonKeys_iff_holdsKey, mem_commonKeys_iff_holdsKey, and_comm]
  have commonLength : (reconcile key left right).result.common.length =
      (reconcile key right left).result.common.length := by
    rw [sides]
    exact (List.length_map _).symm
  refine ⟨?_, sides⟩
  exact {
    removed_increasing := removed_increasing key left right
    added_increasing := added_increasing key left right
    common_increasing := common_increasing key left right
    removed_iff := mem_removed_iff_holdsKey key left right
    added_iff := by
      rw [added]
      exact mem_removed_iff_holdsKey key right left
    common_iff := mem_commonKeys_iff_holdsKey key left right
    pair_of_key := by
      intro wanted isLeft isRight
      rw [← isSome_firstWithKey, Option.isSome_iff_exists] at isLeft isRight
      obtain ⟨first, isFirst⟩ := isLeft
      obtain ⟨second, isSecond⟩ := isRight
      exact ⟨first, second, isFirst, isSecond, filter_common key left right isFirst isSecond⟩
    disjoint := fun _ isRemoved => not_mem_added_of_mem_removed key left right isRemoved
    left_keys := mem_removed_append_commonKeys key left right
    right_keys := by
      intro wanted
      rw [← mem_removed_append_commonKeys key right left, List.mem_append, List.mem_append, added,
        commonKeys]
    left_length := length_eq_removed_add_common_add_repetitions key left right
    right_length := by
      rw [added, commonLength]
      exact length_eq_removed_add_common_add_repetitions key right left
    records := by
      intro σ run
      rw [events_logRepeated, List.map_append, repeated_reconcile, List.map_map, List.map_map]
      exact congrArg _ (List.map_congr_left fun item _ => record_repeatedKey key item) }

end Reconcile

end SurfaceDiff
