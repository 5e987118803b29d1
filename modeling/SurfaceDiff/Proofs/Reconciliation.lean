import SurfaceDiff.Proofs.Text.Order
import SurfaceDiff.Reconciliation

/-!
Contract: what reconciling two collections yields, in terms of the first items of each key.

Owns: `firstWithKey`, the index by key as that function, and the members and the order of the three
parts of a reconciliation.
Does not own: the levels that are reconciled, nor the record of the items left out.
-/

namespace SurfaceDiff

open Text

variable {α : Type}

/-- The first item of a key, in the order of the list. -/
def firstWithKey (key : α → CodePoints) (items : List α) (wanted : CodePoints) : Option α :=
  items.find? fun item => key item = wanted

theorem key_of_firstWithKey {key : α → CodePoints} {items : List α} {wanted : CodePoints} {item : α}
    (found : firstWithKey key items wanted = some item) : key item = wanted := by
  simpa using List.find?_some found

namespace Index

theorem getElem?_firsts_insert (key : α → CodePoints) (index : Index α) (item : α)
    (wanted : CodePoints) :
    (index.insert key item).firsts[wanted]? =
      index.firsts[wanted]?.or (if key item = wanted then some item else none) := by
  unfold insert
  by_cases known : key item ∈ index.firsts
  · rw [if_pos known]
    by_cases same : key item = wanted
    · subst same
      rw [Std.TreeMap.mem_iff_isSome_getElem?, Option.isSome_iff_exists] at known
      obtain ⟨first, found⟩ := known
      simp [found]
    · simp [same]
  · rw [if_neg known, Std.TreeMap.getElem?_insert]
    simp only [Std.LawfulEqOrd.compare_eq_iff_eq]
    by_cases same : key item = wanted
    · subst same
      simp [Std.TreeMap.getElem?_eq_none known]
    · simp [same]

/-- The index holds under each key the first item that has it. -/
theorem getElem?_firsts_ofList (key : α → CodePoints) (items : List α) (wanted : CodePoints) :
    (ofList key items).firsts[wanted]? = firstWithKey key items wanted := by
  have accumulated : ∀ index : Index α, (items.foldl (insert key) index).firsts[wanted]? =
      index.firsts[wanted]?.or (firstWithKey key items wanted) := by
    induction items with
    | nil => simp [firstWithKey]
    | cons item rest inductionHypothesis =>
        intro index
        rw [List.foldl_cons, inductionHypothesis, getElem?_firsts_insert, Option.or_assoc]
        by_cases same : key item = wanted
        · simp [firstWithKey, same]
        · simp [firstWithKey, same]
  simpa [ofList] using accumulated {}

theorem mem_firsts_ofList (key : α → CodePoints) (items : List α) (wanted : CodePoints) :
    wanted ∈ (ofList key items).firsts ↔ (firstWithKey key items wanted).isSome := by
  rw [Std.TreeMap.mem_iff_isSome_getElem?, getElem?_firsts_ofList]

end Index

namespace Reconciliation

theorem mem_keysMissing (key : α → CodePoints) (left right : List α) (wanted : CodePoints) :
    wanted ∈ keysMissing (Index.ofList key left) (Index.ofList key right) ↔
      (firstWithKey key left wanted).isSome ∧ firstWithKey key right wanted = none := by
  simp [keysMissing, Index.mem_firsts_ofList]

theorem keysMissing_increasing (left right : Index α) :
    CodePoints.Increasing (keysMissing left right) := by
  have ordered : CodePoints.Increasing left.firsts.keys :=
    Std.TreeMap.ordered_keys.imp fun less => (CodePoints.compare_eq_lt_iff_precedes _ _).mp less
  exact ordered.filter _

theorem mem_pairs (left right : Index α) (first second : α) :
    (first, second) ∈ pairs left right ↔
      ∃ key : CodePoints, left.firsts[key]? = some first ∧ right.firsts[key]? = some second := by
  simp [pairs, List.mem_filterMap]

/-- The pairs come in the order of their keys, when the left index files its items by key. -/
theorem pairs_ordered (key : α → CodePoints) (left right : Index α)
    (filed : ∀ (wanted : CodePoints) (item : α), left.firsts[wanted]? = some item → key item = wanted) :
    (pairs left right).Pairwise fun first second =>
      CodePoints.Precedes (key first.1) (key second.1) := by
  have ordered : left.firsts.toList.Pairwise fun first second =>
      CodePoints.Precedes (key first.2) (key second.2) := by
    refine Std.TreeMap.ordered_keys_toList.imp_of_mem fun firstMember secondMember less => ?_
    rw [filed _ _ (Std.TreeMap.mem_toList_iff_getElem?_eq_some.mp firstMember),
      filed _ _ (Std.TreeMap.mem_toList_iff_getElem?_eq_some.mp secondMember)]
    exact (CodePoints.compare_eq_lt_iff_precedes _ _).mp less
  refine ordered.filterMap _ fun first second precedes firstPair isFirst secondPair isSecond => ?_
  simp only [Option.map_eq_some_iff] at isFirst isSecond
  obtain ⟨_, _, rfl⟩ := isFirst
  obtain ⟨_, _, rfl⟩ := isSecond
  exact precedes

end Reconciliation

section Reconcile

variable (key : α → CodePoints) (left right : List α)

theorem mem_removed (wanted : CodePoints) :
    wanted ∈ (reconcile key left right).result.removed ↔
      (firstWithKey key left wanted).isSome ∧ firstWithKey key right wanted = none :=
  Reconciliation.mem_keysMissing key left right wanted

theorem mem_added (wanted : CodePoints) :
    wanted ∈ (reconcile key left right).result.added ↔
      firstWithKey key left wanted = none ∧ (firstWithKey key right wanted).isSome := by
  rw [and_comm]
  exact Reconciliation.mem_keysMissing key right left wanted

theorem removed_increasing : CodePoints.Increasing (reconcile key left right).result.removed :=
  Reconciliation.keysMissing_increasing _ _

theorem added_increasing : CodePoints.Increasing (reconcile key left right).result.added :=
  Reconciliation.keysMissing_increasing _ _

/-- The common pairs hold the first left and the first right item of each key of both sides. -/
theorem mem_common (first second : α) :
    (first, second) ∈ (reconcile key left right).result.common ↔
      firstWithKey key left (key first) = some first ∧
        firstWithKey key right (key first) = some second := by
  simp only [reconcile, Reconciliation.ofIndexes, Reconciliation.mem_pairs,
    Index.getElem?_firsts_ofList]
  constructor
  · intro paired
    rcases paired with ⟨wanted, isFirst, isSecond⟩
    rw [key_of_firstWithKey isFirst]
    exact ⟨isFirst, isSecond⟩
  · intro found
    rcases found with ⟨isFirst, isSecond⟩
    exact ⟨key first, isFirst, isSecond⟩

theorem common_increasing :
    CodePoints.Increasing ((reconcile key left right).result.common.map fun pair => key pair.1) := by
  refine List.pairwise_map.mpr (Reconciliation.pairs_ordered key _ _ fun wanted item found => ?_)
  rw [Index.getElem?_firsts_ofList] at found
  exact key_of_firstWithKey found

/-- The common pairs stand for the keys that both sides hold. -/
theorem mem_commonKeys (wanted : CodePoints) :
    wanted ∈ (reconcile key left right).result.common.map (fun pair => key pair.1) ↔
      (firstWithKey key left wanted).isSome ∧ (firstWithKey key right wanted).isSome := by
  simp only [List.mem_map, Prod.exists, mem_common, Option.isSome_iff_exists]
  constructor
  · intro paired
    rcases paired with ⟨first, second, ⟨isFirst, isSecond⟩, rfl⟩
    exact ⟨⟨first, isFirst⟩, ⟨second, isSecond⟩⟩
  · intro found
    rcases found with ⟨⟨first, isFirst⟩, ⟨second, isSecond⟩⟩
    obtain rfl := key_of_firstWithKey isFirst
    exact ⟨first, second, ⟨isFirst, isSecond⟩, rfl⟩

theorem keys_agree_of_mem_common {first second : α}
    (common : (first, second) ∈ (reconcile key left right).result.common) :
    key second = key first :=
  key_of_firstWithKey ((mem_common key left right first second).mp common).2

/-- With the sides exchanged, the same keys are common, in the same order. -/
theorem common_swap :
    (reconcile key right left).result.common =
      (reconcile key left right).result.common.map Prod.swap := by
  have keys : ((reconcile key left right).result.common.map Prod.swap).map (fun pair => key pair.1) =
      (reconcile key left right).result.common.map fun pair => key pair.1 := by
    rw [List.map_map]
    exact List.map_congr_left fun pair common => keys_agree_of_mem_common key left right common
  refine CodePoints.Increasing.eq_of_mem_iff (fun pair => key pair.1)
    (common_increasing key right left) ?_ ?_
  · rw [keys]
    exact common_increasing key left right
  · intro pair
    obtain ⟨first, second⟩ := pair
    have swapped : (first, second) ∈ (reconcile key left right).result.common.map Prod.swap ↔
        (second, first) ∈ (reconcile key left right).result.common := by
      rw [List.mem_map]
      constructor
      · rintro ⟨⟨_, _⟩, common, same⟩
        cases same
        exact common
      · intro common
        exact ⟨_, common, rfl⟩
    rw [swapped, mem_common, mem_common]
    constructor
    · rintro ⟨isFirst, isSecond⟩
      rw [key_of_firstWithKey isSecond]
      exact ⟨isSecond, isFirst⟩
    · rintro ⟨isSecond, isFirst⟩
      rw [key_of_firstWithKey isFirst]
      exact ⟨isFirst, isSecond⟩

/-- The three parts of a reconciliation share no key. -/
theorem not_mem_added_of_mem_removed {wanted : CodePoints}
    (isRemoved : wanted ∈ (reconcile key left right).result.removed) :
    wanted ∉ (reconcile key left right).result.added := by
  rw [mem_removed] at isRemoved
  rw [mem_added, isRemoved.2]
  simp

theorem not_mem_commonKeys_of_mem_removed {wanted : CodePoints}
    (isRemoved : wanted ∈ (reconcile key left right).result.removed) :
    wanted ∉ (reconcile key left right).result.common.map fun pair => key pair.1 := by
  rw [mem_removed] at isRemoved
  rw [mem_commonKeys, isRemoved.2]
  simp

theorem not_mem_commonKeys_of_mem_added {wanted : CodePoints}
    (isAdded : wanted ∈ (reconcile key left right).result.added) :
    wanted ∉ (reconcile key left right).result.common.map fun pair => key pair.1 := by
  rw [mem_added] at isAdded
  rw [mem_commonKeys, isAdded.1]
  simp

end Reconcile

end SurfaceDiff
