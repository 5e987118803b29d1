import SurfaceDiff.Settings.Assignments

/-!
Contract: assignments, restricted to some of their names.

Owns: `onNames`, and that assigning, renaming and filtering by value go through it; look-ups in
restricted assignments.
Does not own: which names matter to anyone.

Assignments keep the place in which a name first appeared. A restriction keeps the order of what is
left, so that assignments can be restricted before or after they are made.
-/

namespace SurfaceDiff.Settings.Assignments

variable {α : Type}

/-- The assignments to the names that are kept. -/
def onNames (assignments : Assignments α) (keep : String → Bool) : Assignments α :=
  ⟨assignments.pairs.filter fun pair => keep pair.1⟩

theorem find?_onNames (assignments : Assignments α) {keep : String → Bool} {name : String}
    (kept : keep name = true) : (assignments.onNames keep).find? name = assignments.find? name := by
  obtain ⟨pairs⟩ := assignments
  unfold onNames find?
  induction pairs with
  | nil => rfl
  | cons pair rest inductionHypothesis =>
      obtain ⟨known, value⟩ := pair
      by_cases same : name = known
      · subst same
        simp [kept]
      · have differs : (name == known) = false := by simpa using same
        by_cases isKept : keep known
        · simpa [isKept, List.lookup_cons, differs] using inductionHypothesis
        · simpa [isKept, List.lookup_cons, differs] using inductionHypothesis

theorem onNames_assign (assignments : Assignments α) (keep : String → Bool) (name : String)
    (value : α) :
    (assignments.assign name value).onNames keep =
      if keep name then (assignments.onNames keep).assign name value
      else assignments.onNames keep := by
  obtain ⟨pairs⟩ := assignments
  unfold assign onNames
  by_cases isKept : keep name
  · have sameNames : ((pairs.filter fun pair => keep pair.1).any fun pair => pair.1 = name) =
        pairs.any fun pair => pair.1 = name := by
      rw [List.any_filter]
      congr 1
      funext pair
      by_cases same : pair.1 = name
      · simp [same, isKept]
      · simp [same]
    simp only [isKept, if_true, sameNames]
    split
    · simp [List.filter_map, Function.comp_def]
    · simp [isKept]
  · simp only [isKept, if_false, Bool.false_eq_true]
    split
    · -- Only a value of `name` is replaced, and `name` is not kept.
      have unchanged : ∀ pair ∈ pairs.filter (fun pair => keep pair.1),
          (pair.1, if pair.1 = name then value else pair.2) = pair := by
        intro pair member
        have pairKept : keep pair.1 = true := (List.mem_filter.mp member).2
        have differs : pair.1 ≠ name := fun same => isKept (same ▸ pairKept)
        rw [if_neg differs]
      rw [List.filter_map]
      exact congrArg Assignments.mk ((List.map_congr_left unchanged).trans (List.map_id _))
    · simp [isKept]

theorem onNames_ofList (pairs : List (String × α)) (keep : String → Bool) :
    (ofList pairs).onNames keep = ofList (pairs.filter fun pair => keep pair.1) := by
  have accumulated : ∀ assignments : Assignments α,
      (pairs.foldl (fun known pair => known.assign pair.1 pair.2) assignments).onNames keep =
        (pairs.filter fun pair => keep pair.1).foldl
          (fun known pair => known.assign pair.1 pair.2) (assignments.onNames keep) := by
    induction pairs with
    | nil => exact fun _ => rfl
    | cons pair rest inductionHypothesis =>
        intro assignments
        rw [List.foldl_cons, inductionHypothesis, onNames_assign]
        by_cases isKept : keep pair.1
        · simp [isKept]
        · simp [isKept]
  exact accumulated {}

theorem onNames_renamed (assignments : Assignments α) (rename : String → String)
    (keep : String → Bool) :
    (assignments.renamed rename).onNames keep =
      (assignments.onNames fun name => keep (rename name)).renamed rename := by
  unfold renamed
  rw [onNames_ofList, List.filter_map]
  rfl

theorem onNames_filterValues (assignments : Assignments α) (keepValue : α → Bool)
    (keep : String → Bool) :
    (assignments.filterValues keepValue).onNames keep =
      (assignments.onNames keep).filterValues keepValue := by
  unfold onNames filterValues
  rw [List.filter_filter, List.filter_filter]
  simp only [Bool.and_comm]

/-! ## Single look-ups -/

theorem find?_assign_self (assignments : Assignments α) (name : String) (value : α) :
    (assignments.assign name value).find? name = some value := by
  obtain ⟨pairs⟩ := assignments
  unfold assign find?
  split
  case isTrue known =>
    induction pairs with
    | nil => cases known
    | cons pair rest inductionHypothesis =>
        by_cases same : pair.1 = name
        · simp [same]
        · have differs : (name == pair.1) = false := by simpa using Ne.symm same
          have knownBehind : (rest.any fun pair => pair.1 = name) = true := by
            simpa [same] using known
          simpa [List.lookup_cons, differs] using inductionHypothesis knownBehind
  case isFalse unknown =>
    have absent : pairs.lookup name = none := by
      rw [List.lookup_eq_none_iff]
      intro pair member
      have differs : ¬pair.1 = name := fun same =>
        unknown (List.any_eq_true.mpr ⟨pair, member, by simpa using same⟩)
      simpa using Ne.symm differs
    simp [List.lookup_append, absent]

theorem find?_assign (assignments : Assignments α) (name : String) (value : α) (wanted : String) :
    (assignments.assign name value).find? wanted =
      if wanted = name then some value else assignments.find? wanted := by
  by_cases same : wanted = name
  · rw [if_pos same, same, find?_assign_self]
  · let keep : String → Bool := fun known => known ≠ name
    have kept : keep wanted = true := by simpa [keep] using same
    have dropped : keep name = false := by simp [keep]
    rw [if_neg same, ← find?_onNames (assignments.assign name value) kept, onNames_assign,
      ← find?_onNames assignments kept, dropped]
    rfl

end SurfaceDiff.Settings.Assignments
