import Mathlib.Data.List.Forall2
import SurfaceDiff.Proofs.Repetition

/-!
Contract: lists of keyed items that are told apart by no reconciliation.

Owns: `Rearrangement`, its effect on the first item of each key, and its effect on the three parts of a
reconciliation.
Does not own: what the items are, nor when two items of one key count as the same.

All that a reconciliation reads of a list is the first item of each key. A rearrangement is made of
steps that leave these items in place, one constructor for each kind of step.
-/

namespace SurfaceDiff

open Text

variable {α : Type}

/-- The second list is the first one with its items moved past items of other keys, with items added
and removed behind others of their key, and with items replaced by such that count as the same. -/
inductive Rearrangement (key : α → CodePoints) (Same : α → α → Prop) : List α → List α → Prop where
  | reorder {first second : List α} (perm : first.Perm second)
    (kept : ∀ wanted, first.filter (fun item => key item = wanted) =
      second.filter fun item => key item = wanted) : Rearrangement key Same first second
  | insert {before after : List α} {earlier other : α} (isEarlier : earlier ∈ before)
    (sameKey : key earlier = key other) :
    Rearrangement key Same (before ++ after) (before ++ other :: after)
  | delete {before after : List α} {earlier other : α} (isEarlier : earlier ∈ before)
    (sameKey : key earlier = key other) :
    Rearrangement key Same (before ++ other :: after) (before ++ after)
  | within {first second : List α}
    (same : List.Forall₂ (fun item other => key item = key other ∧ Same item other) first second) :
    Rearrangement key Same first second
  | trans {first second third : List α} (before : Rearrangement key Same first second)
    (after : Rearrangement key Same second third) : Rearrangement key Same first third

/-- Both lists have the same first item under each key, or two that count as the same. -/
def FirstsAgree (key : α → CodePoints) (Same : α → α → Prop) (first second : List α) : Prop :=
  ∀ wanted, Option.Rel Same (firstWithKey key first wanted) (firstWithKey key second wanted)

section Steps

variable {key : α → CodePoints} {Same : α → α → Prop} {first second third : List α}

theorem FirstsAgree.of_eq (reflexive : ∀ item, Same item item)
    (equal : ∀ wanted, firstWithKey key first wanted = firstWithKey key second wanted) :
    FirstsAgree key Same first second := by
  intro wanted
  rw [equal]
  cases firstWithKey key second wanted with
  | none => exact .none
  | some item => exact .some (reflexive item)

theorem FirstsAgree.isSome_eq (agree : FirstsAgree key Same first second) (wanted : CodePoints) :
    (firstWithKey key first wanted).isSome = (firstWithKey key second wanted).isSome := by
  have related := agree wanted
  generalize firstWithKey key first wanted = item at related ⊢
  generalize firstWithKey key second wanted = other at related ⊢
  cases related with
  | some _ => rfl
  | none => rfl

theorem FirstsAgree.same (agree : FirstsAgree key Same first second) {wanted : CodePoints}
    {item other : α} (isFirst : firstWithKey key first wanted = some item)
    (isSecond : firstWithKey key second wanted = some other) : Same item other := by
  have related := agree wanted
  rw [isFirst, isSecond] at related
  exact Option.rel_some_some.mp related

theorem FirstsAgree.trans (transitive : ∀ {item other another}, Same item other →
    Same other another → Same item another) (before : FirstsAgree key Same first second)
    (after : FirstsAgree key Same second third) : FirstsAgree key Same first third := by
  intro wanted
  have agrees := before wanted
  have continues := after wanted
  generalize firstWithKey key first wanted = item at agrees ⊢
  generalize firstWithKey key second wanted = other at agrees continues
  generalize firstWithKey key third wanted = another at continues ⊢
  cases agrees with
  | none => exact continues
  | some isFirst =>
      cases continues with
      | some isSecond => exact .some (transitive isFirst isSecond)

/-- An item behind another one of its key is never the first. -/
theorem firstWithKey_insert {before after : List α} {earlier other : α}
    (isEarlier : earlier ∈ before) (sameKey : key earlier = key other) (wanted : CodePoints) :
    firstWithKey key (before ++ other :: after) wanted =
      firstWithKey key (before ++ after) wanted := by
  unfold firstWithKey
  rw [List.find?_append, List.find?_append]
  by_cases isWanted : key other = wanted
  · have found : (before.find? fun item => key item = wanted).isSome := by
      rw [List.find?_isSome]
      exact ⟨earlier, isEarlier, by simp [sameKey, isWanted]⟩
    obtain ⟨item, found⟩ := Option.isSome_iff_exists.mp found
    rw [found, Option.some_or, Option.some_or]
  · rw [List.find?_cons_of_neg (by simpa using isWanted)]

theorem FirstsAgree.of_forall₂
    (same : List.Forall₂ (fun item other => key item = key other ∧ Same item other) first second) :
    FirstsAgree key Same first second := by
  intro wanted
  unfold firstWithKey
  induction same with
  | nil => exact .none
  | @cons item other _ _ agree _ inductionHypothesis =>
      obtain ⟨sameKey, same⟩ := agree
      by_cases isWanted : key item = wanted
      · rw [List.find?_cons_of_pos (by simpa using isWanted),
          List.find?_cons_of_pos (by simpa [← sameKey] using isWanted)]
        exact .some same
      · rw [List.find?_cons_of_neg (by simpa using isWanted),
          List.find?_cons_of_neg (by simpa [← sameKey] using isWanted)]
        exact inductionHypothesis

/-- No step of a rearrangement changes which items come first. -/
theorem Rearrangement.firstsAgree (reflexive : ∀ item, Same item item)
    (transitive : ∀ {item other another}, Same item other → Same other another → Same item another)
    (rearranged : Rearrangement key Same first second) : FirstsAgree key Same first second := by
  induction rearranged with
  | reorder _ kept =>
      apply FirstsAgree.of_eq reflexive
      intro wanted
      unfold firstWithKey
      rw [← List.head?_filter, ← List.head?_filter, kept]
  | insert isEarlier sameKey =>
      exact .of_eq reflexive fun wanted => (firstWithKey_insert isEarlier sameKey wanted).symm
  | delete isEarlier sameKey =>
      exact .of_eq reflexive fun wanted => firstWithKey_insert isEarlier sameKey wanted
  | within same => exact .of_forall₂ same
  | trans _ _ earlier later => exact earlier.trans transitive later

end Steps

/-! ## Reconciliations -/

section Reconcile

variable {key : α → CodePoints} {SameLeft SameRight : α → α → Prop}
  {left leftAfter right rightAfter : List α}

theorem removed_of_firstsAgree (isLeft : FirstsAgree key SameLeft left leftAfter)
    (isRight : FirstsAgree key SameRight right rightAfter) :
    (reconcile key leftAfter rightAfter).result.removed =
      (reconcile key left right).result.removed := by
  apply (removed_increasing key leftAfter rightAfter).ext (removed_increasing key left right)
  intro wanted
  rw [mem_removed, mem_removed, isLeft.isSome_eq, ← Option.isNone_iff_eq_none,
    ← Option.isNone_iff_eq_none, ← Option.not_isSome, ← Option.not_isSome, isRight.isSome_eq]

theorem added_of_firstsAgree (isLeft : FirstsAgree key SameLeft left leftAfter)
    (isRight : FirstsAgree key SameRight right rightAfter) :
    (reconcile key leftAfter rightAfter).result.added =
      (reconcile key left right).result.added :=
  removed_of_firstsAgree isRight isLeft

theorem commonKeys_of_firstsAgree (isLeft : FirstsAgree key SameLeft left leftAfter)
    (isRight : FirstsAgree key SameRight right rightAfter) :
    ((reconcile key left right).result.common.map fun pair => key pair.1) =
      (reconcile key leftAfter rightAfter).result.common.map fun pair => key pair.1 := by
  apply (common_increasing key left right).ext (common_increasing key leftAfter rightAfter)
  intro wanted
  rw [mem_commonKeys, mem_commonKeys, isLeft.isSome_eq, isRight.isSome_eq]

/-- Lists that agree item by item in one property are related item by item, if that property relates
their members. -/
theorem forall₂_of_map_eq {β γ : Type} {property : β → γ} {Related : β → β → Prop}
    {first second : List β} (equal : first.map property = second.map property)
    (related : ∀ item ∈ first, ∀ other ∈ second, property item = property other →
      Related item other) : List.Forall₂ Related first second := by
  induction first generalizing second with
  | nil =>
      rw [List.map_nil, eq_comm, List.map_eq_nil_iff] at equal
      rw [equal]
      exact .nil
  | cons item rest inductionHypothesis =>
      cases second with
      | nil => cases equal
      | cons other others =>
          obtain ⟨same, sameRest⟩ := List.cons.inj equal
          have head := related item List.mem_cons_self other List.mem_cons_self same
          have tail := inductionHypothesis sameRest fun item isItem other isOther =>
            related item (List.mem_cons_of_mem _ isItem) other (List.mem_cons_of_mem _ isOther)
          exact .cons head tail

/-- Lists whose items are the same after some change of each have the same first items up to it. -/
theorem FirstsAgree.of_map_eq {β : Type} {property : α → β} {first second : List α}
    (equal : first.map property = second.map property)
    (sameKey : ∀ item other, property item = property other → key item = key other) :
    FirstsAgree key (fun item other => property item = property other) first second :=
  .of_forall₂ (forall₂_of_map_eq equal fun item _ other _ same => ⟨sameKey item other same, same⟩)

/-- The same pairs are common, in the same order, up to items that count as the same. -/
theorem common_of_firstsAgree (isLeft : FirstsAgree key SameLeft left leftAfter)
    (isRight : FirstsAgree key SameRight right rightAfter) :
    List.Forall₂ (fun pair other => SameLeft pair.1 other.1 ∧ SameRight pair.2 other.2)
      (reconcile key left right).result.common (reconcile key leftAfter rightAfter).result.common := by
  apply forall₂_of_map_eq (commonKeys_of_firstsAgree isLeft isRight)
  intro pair isPair other isOther sameKey
  obtain ⟨isFirst, isSecond⟩ := (mem_common key left right pair.1 pair.2).mp isPair
  obtain ⟨isFirstAfter, isSecondAfter⟩ := (mem_common key leftAfter rightAfter other.1 other.2).mp isOther
  rw [← sameKey] at isFirstAfter isSecondAfter
  exact ⟨isLeft.same isFirst isFirstAfter, isRight.same isSecond isSecondAfter⟩

end Reconcile

end SurfaceDiff
