import Mathlib.Data.List.Induction
import Mathlib.Data.List.Nodup
import SurfaceDiff.Proofs.Reconciliation

/-!
Contract: the items of a collection that stand behind another one of their key.

Owns: `repetitions`; the index of a list as the firsts of each key and the keys of the repetitions; and
the law that each item of a reconciled list is removed, common or a repetition.
Does not own: which item of a key comes first.

An index is built from the front, so each item is looked at together with those in front of it. The
inductions are therefore on the end of the list.
-/

namespace SurfaceDiff

open Text

variable {α : Type}

/-- The items that have an item of the same key in front of them. -/
def repetitions (key : α → CodePoints) (items : List α) : List α :=
  (items.zipIdx.filter fun placed =>
    (items.take placed.2).any fun earlier => key earlier = key placed.1).map Prod.fst

theorem repetitions_concat (key : α → CodePoints) (items : List α) (item : α) :
    repetitions key (items ++ [item]) = repetitions key items ++
      if items.any fun earlier => key earlier = key item then [item] else [] := by
  have inFront : (items.zipIdx.filter fun placed =>
        ((items ++ [item]).take placed.2).any fun earlier => key earlier = key placed.1) =
      items.zipIdx.filter fun placed =>
        (items.take placed.2).any fun earlier => key earlier = key placed.1 := by
    refine List.filter_congr fun placed member => ?_
    have within : placed.2 ≤ items.length := by
      have bound := List.snd_lt_of_mem_zipIdx member
      omega
    simp only [List.take_append_of_le_length within]
  have last : [item].zipIdx items.length = [(item, items.length)] := rfl
  unfold repetitions
  rw [List.zipIdx_append, List.filter_append, Nat.zero_add, last, List.map_append, inFront]
  by_cases known : items.any fun earlier => key earlier = key item
  · simp [known]
  · simp [known]

/-- Nothing is repeated among items with distinct keys. -/
theorem repetitions_eq_nil {key : α → CodePoints} {items : List α}
    (distinct : (items.map key).Nodup) : repetitions key items = [] := by
  induction items using List.reverseRecOn with
  | nil => rfl
  | append_singleton items item inductionHypothesis =>
      rw [List.map_append, List.nodup_append] at distinct
      obtain ⟨front, _, apart⟩ := distinct
      have isNew : ¬items.any fun earlier => key earlier = key item := by
        simp only [List.any_eq_true, decide_eq_true_eq]
        rintro ⟨earlier, member, same⟩
        exact apart (key earlier) (List.mem_map_of_mem member) (key item) (by simp) same
      rw [repetitions_concat, inductionHypothesis front, if_neg isNew, List.append_nil]

/-- Among items with distinct keys, each is the first of its key. -/
theorem firstWithKey_of_mem {key : α → CodePoints} {items : List α}
    (distinct : (items.map key).Nodup) {item : α} (member : item ∈ items) :
    firstWithKey key items (key item) = some item := by
  have found : (firstWithKey key items (key item)).isSome := by
    rw [firstWithKey, List.find?_isSome]
    exact ⟨item, member, decide_eq_true rfl⟩
  obtain ⟨first, isFirst⟩ := Option.isSome_iff_exists.mp found
  have same : first = item :=
    List.inj_on_of_nodup_map distinct (List.mem_of_find?_eq_some isFirst) member
      (key_of_firstWithKey isFirst)
  rw [isFirst, same]

/-- Where no two items share a key, any permutation keeps the order of items with equal keys. -/
theorem filter_eq_of_perm {κ : Type} [DecidableEq κ] {key : α → κ} {first second : List α}
    (distinct : (first.map key).Nodup) (perm : first.Perm second) (wanted : κ) :
    first.filter (fun item => key item = wanted) =
      second.filter fun item => key item = wanted := by
  have differ : first.Pairwise fun item other => key item ≠ key other :=
    List.pairwise_map.mp distinct
  have alsoDiffer : second.Pairwise fun item other => key item ≠ key other :=
    perm.pairwise differ fun different => different.symm
  refine (perm.filter _).eq_of_pairwise ?_ (differ.filter _) (alsoDiffer.filter _)
  intro item other isFirst isSecond different
  have firstKey : key item = wanted := by simpa using (List.mem_filter.mp isFirst).2
  have secondKey : key other = wanted := by simpa using (List.mem_filter.mp isSecond).2
  exact absurd (firstKey.trans secondKey.symm) different

/-! ## The index of a list -/

namespace Index

theorem ofList_concat (key : α → CodePoints) (items : List α) (item : α) :
    ofList key (items ++ [item]) = (ofList key items).insert key item :=
  List.foldl_append

theorem mem_firsts_ofList_iff_any (key : α → CodePoints) (items : List α) (wanted : CodePoints) :
    wanted ∈ (ofList key items).firsts ↔ items.any fun earlier => key earlier = wanted := by
  rw [mem_firsts_ofList, firstWithKey, List.find?_isSome, List.any_eq_true]

/-- An item that is filed goes to the firsts or to the repeated ones. -/
theorem size_insert (key : α → CodePoints) (index : Index α) (item : α) :
    (index.insert key item).firsts.size + (index.insert key item).repeated.size =
      index.firsts.size + index.repeated.size + 1 := by
  unfold insert
  split
  case isTrue known =>
    show index.firsts.size + (index.repeated.push (key item)).size = _
    rw [Array.size_push, Nat.add_assoc]
  case isFalse isNew =>
    show (index.firsts.insert (key item) item).size + index.repeated.size = _
    rw [Std.TreeMap.size_insert, if_neg (mt Std.TreeMap.contains_iff_mem.mp isNew)]
    omega

theorem size_ofList (key : α → CodePoints) (items : List α) :
    (ofList key items).firsts.size + (ofList key items).repeated.size = items.length := by
  induction items using List.reverseRecOn with
  | nil => rfl
  | append_singleton items item inductionHypothesis =>
      rw [ofList_concat, size_insert, inductionHypothesis, List.length_append, List.length_singleton]

/-- The keys set aside are those of the repetitions, in their order. -/
theorem repeated_ofList (key : α → CodePoints) (items : List α) :
    (ofList key items).repeated.toList = (repetitions key items).map key := by
  induction items using List.reverseRecOn with
  | nil => rfl
  | append_singleton items item inductionHypothesis =>
      rw [ofList_concat, repetitions_concat, List.map_append, ← inductionHypothesis]
      unfold insert
      by_cases known : items.any fun earlier => key earlier = key item
      · rw [if_pos known, if_pos ((mem_firsts_ofList_iff_any key items _).mpr known)]
        exact Array.toList_push
      · rw [if_neg known, if_neg fun filed => known ((mem_firsts_ofList_iff_any key items _).mp filed)]
        exact (List.append_nil _).symm

end Index

/-! ## The items of a reconciled list -/

/-- Each first item of a key is missing on the other side or paired with its counterpart. -/
theorem Reconciliation.length_keysMissing_add_length_pairs (left right : Index α) :
    (keysMissing left right).length + (pairs left right).length = left.firsts.size := by
  have paired : (pairs left right).length =
      left.firsts.keys.countP fun key => decide (key ∈ right.firsts) := by
    unfold pairs
    rw [List.length_filterMap_eq_countP, ← Std.TreeMap.map_fst_toList_eq_keys, List.countP_map]
    refine List.countP_congr fun pair _ => ?_
    simp only [Option.isSome_map, Function.comp_apply, decide_eq_true_eq,
      Std.TreeMap.mem_iff_isSome_getElem?]
  have missing : (keysMissing left right).length =
      left.firsts.keys.countP fun key => decide (key ∉ right.firsts) :=
    List.countP_eq_length_filter.symm
  rw [paired, missing, ← Std.TreeMap.length_keys,
    List.length_eq_countP_add_countP fun key => decide (key ∈ right.firsts)]
  simp [Nat.add_comm]

/-- Each item of the left list is removed, common, or behind another one of its key. -/
theorem length_eq_removed_add_common_add_repetitions (key : α → CodePoints) (left right : List α) :
    left.length = (reconcile key left right).result.removed.length +
      (reconcile key left right).result.common.length + (repetitions key left).length := by
  have parts := Reconciliation.length_keysMissing_add_length_pairs (.ofList key left)
    (.ofList key right)
  have repeated : (Index.ofList key left).repeated.size = (repetitions key left).length := by
    rw [← Array.length_toList, Index.repeated_ofList, List.length_map]
  have whole := Index.size_ofList key left
  rw [← whole, ← parts, repeated]
  rfl

end SurfaceDiff
