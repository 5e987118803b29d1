import SurfaceDiff.Proofs.ClassFile.Layout

/-!
Contract: the table of slots that a list of constants fills.

Owns: `Tabulates`, how many slots it counts, the laws of the numbering of constants, and that an
index leads to the same constant in the table as by the numbering.
Does not own: any bytes.

A pool is filled up to a given count. Where the count ends after the first slot of a wide constant,
the second one is missing, and nothing else can be cut off.
-/

namespace SurfaceDiff.ClassFile.Layout

open Text

variable {τ : Type}

/-! ## Tables -/

/-- What the first slot of a constant holds. -/
def Constant.slot : Constant CodePoints → Slot
  | text content => .text content
  | classRef nameIndex => .classRef nameIndex.toNat
  | other _ _ _ => .other

/-- The constants fill a table of `count` slots; with the flag set, the first slot of the table still
belongs to the constant before. -/
inductive Tabulates : Bool → Nat → List (Constant CodePoints) → List Slot → Prop where
  | done (second : Bool) : Tabulates second 0 [] []
  | second {count : Nat} {constants : List (Constant CodePoints)} {slots : List Slot}
    (later : Tabulates false count constants slots) :
    Tabulates true (count + 1) constants (.other :: slots)
  | constant {count : Nat} {constant : Constant CodePoints}
    {constants : List (Constant CodePoints)} {slots : List Slot}
    (later : Tabulates constant.isWide count constants slots) :
    Tabulates false (count + 1) (constant :: constants) (constant.slot :: slots)

/-! ## Counting -/

theorem slotCount_eq (constant : Constant τ) :
    constant.slotCount = 1 + constant.isWide.toNat := by
  unfold Constant.slotCount
  cases constant.isWide <;> rfl

theorem one_le_slotCount (constant : Constant τ) : 1 ≤ constant.slotCount := by
  rw [slotCount_eq]
  omega

theorem totalSlots_append (front back : List (Constant τ)) :
    totalSlots (front ++ back) = totalSlots front + totalSlots back := by
  induction front with
  | nil => rw [List.nil_append, totalSlots, Nat.zero_add]
  | cons constant rest inductionHypothesis =>
      rw [List.cons_append, totalSlots, totalSlots, inductionHypothesis, Nat.add_assoc]

theorem eq_nil_of_totalSlots {constants : List (Constant τ)} (none : totalSlots constants = 0) :
    constants = [] := by
  cases constants with
  | nil => rfl
  | cons constant rest =>
      have some := one_le_slotCount constant
      rw [totalSlots] at none
      omega

/-- Whether the last constant is wide, or the one before when there is none. -/
def endsWide : Bool → List (Constant τ) → Bool
  | second, [] => second
  | _, constant :: rest => endsWide constant.isWide rest

/-- The slots end with the count, or the second slot of the last constant lies beyond it. -/
def Fills (second : Bool) (count : Nat) (constants : List (Constant τ)) : Prop :=
  second.toNat + totalSlots constants = count ∨
    second.toNat + totalSlots constants = count + 1 ∧ endsWide second constants = true

theorem endsWide_map {σ : Type} (form : σ → τ) (second : Bool) (constants : List (Constant σ)) :
    endsWide second (constants.map (Constant.map form)) = endsWide second constants := by
  induction constants generalizing second with
  | nil => rfl
  | cons constant rest inductionHypothesis =>
      rw [List.map_cons, endsWide, endsWide, inductionHypothesis, Constant.isWide_map]

theorem fills_map_iff {σ : Type} (form : σ → τ) (second : Bool) (count : Nat)
    (constants : List (Constant σ)) :
    Fills second count (constants.map (Constant.map form)) ↔ Fills second count constants := by
  unfold Fills
  rw [totalSlots_map, endsWide_map]

theorem two_le_totalSlots {second : Bool} {constants : List (Constant τ)}
    (some : constants ≠ []) (wide : endsWide second constants = true) :
    2 ≤ totalSlots constants := by
  induction constants generalizing second with
  | nil => exact absurd rfl some
  | cons constant rest inductionHypothesis =>
      rw [endsWide] at wide
      rw [totalSlots, slotCount_eq]
      cases rest with
      | nil =>
          rw [endsWide] at wide
          rw [wide, Bool.toNat_true]
          omega
      | cons next rest =>
          have more := inductionHypothesis (List.cons_ne_nil _ _) wide
          omega

theorem endsWide_iff (constants : List (Constant τ)) :
    endsWide false constants = true ↔
      ∃ before last, constants = before ++ [last] ∧ last.isWide = true := by
  have general (second : Bool) : endsWide second constants = true ↔
      constants = [] ∧ second = true ∨
        ∃ before last, constants = before ++ [last] ∧ last.isWide = true := by
    induction constants generalizing second with
    | nil => simp [endsWide]
    | cons constant rest inductionHypothesis =>
        rw [endsWide, inductionHypothesis]
        constructor
        · intro wide
          rcases wide with only | ends
          · exact .inr ⟨[], constant, by rw [only.1]; rfl, only.2⟩
          · obtain ⟨before, last, rfl, wide⟩ := ends
            exact .inr ⟨constant :: before, last, rfl, wide⟩
        · intro wide
          rcases wide with empty | ends
          · cases empty.1
          · obtain ⟨before, last, same, wide⟩ := ends
            cases before with
            | nil =>
                obtain ⟨rfl, rfl⟩ := List.cons.inj same
                exact .inl ⟨rfl, wide⟩
            | cons first before =>
                obtain ⟨rfl, rfl⟩ := List.cons.inj same
                exact .inr ⟨before, last, rfl, wide⟩
  rw [general]
  simp

/-- A table without slots holds no constant. -/
theorem Fills.eq_nil {second : Bool} {constants : List (Constant τ)}
    (fills : Fills second 0 constants) : constants = [] := by
  by_contra some
  have enough (wide : endsWide second constants = true) := two_le_totalSlots some wide
  obtain ⟨constant, rest, rfl⟩ := List.exists_cons_of_ne_nil some
  rcases fills with exactly | cut
  · rw [totalSlots, slotCount_eq] at exactly
    omega
  · have more := enough cut.2
    omega

theorem fills_true_succ_iff (count : Nat) (constants : List (Constant τ)) :
    Fills true (count + 1) constants ↔ Fills false count constants := by
  unfold Fills
  rw [Bool.toNat_true, Bool.toNat_false]
  cases constants with
  | nil =>
      simp only [totalSlots, endsWide, Bool.false_eq_true, and_false, or_false, and_true]
      omega
  | cons constant rest =>
      rw [endsWide, endsWide, Nat.add_comm 1, Nat.add_right_cancel_iff, Nat.add_right_cancel_iff,
        Nat.zero_add]

theorem fills_cons_iff (count : Nat) (constant : Constant τ) (rest : List (Constant τ)) :
    Fills false (count + 1) (constant :: rest) ↔ Fills constant.isWide count rest := by
  unfold Fills
  rw [endsWide, totalSlots, slotCount_eq, Bool.toNat_false]
  exact or_congr (by omega) (and_congr_left fun _ => by omega)

theorem Tabulates.fills {second : Bool} {count : Nat} {constants : List (Constant CodePoints)}
    {slots : List Slot} (tabulates : Tabulates second count constants slots) :
    Fills second count constants := by
  induction tabulates with
  | done second =>
      cases second
      · exact .inl rfl
      · exact .inr ⟨rfl, rfl⟩
  | second later inductionHypothesis => exact (fills_true_succ_iff _ _).mpr inductionHypothesis
  | constant later inductionHypothesis => exact (fills_cons_iff _ _ _).mpr inductionHypothesis

/-- Constants that take the slots of a count, but for a second one at the end, have a table. -/
theorem exists_tabulates {second : Bool} {count : Nat} {constants : List (Constant CodePoints)}
    (fills : Fills second count constants) : ∃ slots, Tabulates second count constants slots := by
  induction count generalizing second constants with
  | zero =>
      rw [fills.eq_nil]
      exact ⟨[], .done second⟩
  | succ count inductionHypothesis =>
      cases second with
      | true =>
          obtain ⟨slots, later⟩ := inductionHypothesis ((fills_true_succ_iff _ _).mp fills)
          exact ⟨_, .second later⟩
      | false =>
          cases constants with
          | nil =>
              rcases fills with exactly | cut
              · cases exactly
              · cases cut.2
          | cons constant rest =>
              obtain ⟨slots, later⟩ := inductionHypothesis ((fills_cons_iff _ _ _).mp fills)
              exact ⟨_, .constant later⟩

/-- The same, with slot 0 counted. -/
theorem fills_pred_iff {count : Nat} {constants : List (Constant τ)}
    (some : 0 < totalSlots constants) :
    Fills false (count - 1) constants ↔ count = 1 + totalSlots constants ∨
      count = totalSlots constants ∧
        ∃ before last, constants = before ++ [last] ∧ last.isWide = true := by
  have nonempty : constants ≠ [] := by
    intro empty
    rw [empty] at some
    cases some
  rw [← endsWide_iff]
  unfold Fills
  rw [Bool.toNat_false, Nat.zero_add]
  refine or_congr (by omega) (and_congr_left fun wide => ?_)
  have enough := two_le_totalSlots nonempty wide
  omega

/-! ## The numbering of slots -/

section Numbering

variable {constants : List (Constant τ)}

theorem At.totalSlots_pos {index : Nat} {constant : Constant τ}
    (isAt : At constants index constant) : 0 < totalSlots constants := by
  obtain ⟨before, after, rfl, _⟩ := isAt
  have some := one_le_slotCount constant
  rw [totalSlots_append, totalSlots]
  omega

/-- An index leads to one constant at most. -/
theorem at_unique {index : Nat} {first second : Constant τ} (isFirst : At constants index first)
    (isSecond : At constants index second) : first = second := by
  obtain ⟨before, after, rfl, position⟩ := isFirst
  obtain ⟨otherBefore, otherAfter, same, otherPosition⟩ := isSecond
  have sameSlots : totalSlots before = totalSlots otherBefore := by omega
  -- One prefix continues the other, by constants that take no slot: by none.
  obtain ⟨between, rfl, split⟩ | ⟨between, rfl, split⟩ := List.append_eq_append_iff.mp same
  · rw [totalSlots_append] at sameSlots
    obtain rfl := eq_nil_of_totalSlots (show totalSlots between = 0 by omega)
    exact (List.cons.inj split).1
  · rw [totalSlots_append] at sameSlots
    obtain rfl := eq_nil_of_totalSlots (show totalSlots between = 0 by omega)
    exact (List.cons.inj split).1.symm

theorem textAt_unique (index : Nat) (first second : τ)
    (isFirst : TextAt constants index first) (isSecond : TextAt constants index second) :
    first = second :=
  Constant.text.inj (at_unique isFirst isSecond)

theorem classAt_unique {index : Nat} {first second : τ} (isFirst : ClassAt constants index first)
    (isSecond : ClassAt constants index second) : first = second := by
  obtain ⟨firstIndex, isFirst, firstName⟩ := isFirst
  obtain ⟨secondIndex, isSecond, secondName⟩ := isSecond
  obtain rfl := Constant.classRef.inj (at_unique isFirst isSecond)
  exact textAt_unique _ _ _ firstName secondName

/-- The second slot of a wide constant is no place of a constant. -/
theorem At.not_at_succ {index : Nat} {constant : Constant τ} (isAt : At constants index constant)
    (wide : constant.isWide = true) (other : Constant τ) : ¬At constants (index + 1) other := by
  intro isOther
  obtain ⟨before, after, rfl, position⟩ := isAt
  obtain ⟨otherBefore, otherAfter, same, otherPosition⟩ := isOther
  have slots := slotCount_eq constant
  rw [wide, Bool.toNat_true] at slots
  rcases List.append_eq_append_iff.mp same with longer | shorter
  · obtain ⟨between, rfl, split⟩ := longer
    rw [totalSlots_append] at otherPosition
    cases between with
    | nil =>
        rw [totalSlots] at otherPosition
        omega
    | cons head between =>
        obtain ⟨rfl, _⟩ := List.cons.inj split
        rw [totalSlots] at otherPosition
        omega
  · obtain ⟨between, rfl, _⟩ := shorter
    rw [totalSlots_append] at position
    omega

end Numbering

/-! ## Resolution in a table -/

theorem slot_eq_text_iff (constant : Constant CodePoints) (content : CodePoints) :
    constant.slot = .text content ↔ constant = .text content := by
  cases constant <;> simp [Constant.slot]

theorem slot_eq_classRef_iff (constant : Constant CodePoints) (index : Nat) :
    constant.slot = .classRef index ↔
      ∃ nameIndex : UInt16, constant = .classRef nameIndex ∧ nameIndex.toNat = index := by
  cases constant <;> simp [Constant.slot]

/-- A slot that names something is the first one of a constant, counted by the slots before it. -/
theorem Tabulates.getElem?_eq_some_iff {second : Bool} {count : Nat}
    {constants : List (Constant CodePoints)} {slots : List Slot}
    (tabulates : Tabulates second count constants slots) (index : Nat) {slot : Slot}
    (names : slot ≠ .other) :
    slots[index]? = some slot ↔ ∃ before constant after,
      constants = before ++ constant :: after ∧ index = second.toNat + totalSlots before ∧
        constant.slot = slot := by
  induction tabulates generalizing index with
  | done second => simp
  | second later inductionHypothesis =>
      cases index with
      | zero =>
          rw [List.getElem?_cons_zero, Bool.toNat_true, Option.some.injEq]
          constructor
          · intro isOther
            exact absurd isOther.symm names
          · intro found
            obtain ⟨before, constant, after, _, zero, _⟩ := found
            omega
      | succ index =>
          rw [List.getElem?_cons_succ, inductionHypothesis, Bool.toNat_true, Bool.toNat_false]
          simp only [Nat.zero_add, Nat.add_comm 1, Nat.add_right_cancel_iff]
  | @constant count first constants slots later inductionHypothesis =>
      rw [Bool.toNat_false]
      cases index with
      | zero =>
          rw [List.getElem?_cons_zero, Option.some.injEq]
          constructor
          · intro isSlot
            exact ⟨[], first, constants, rfl, rfl, isSlot⟩
          · intro found
            obtain ⟨before, constant, after, same, zero, isSlot⟩ := found
            cases before with
            | nil =>
                obtain ⟨rfl, rfl⟩ := List.cons.inj same
                exact isSlot
            | cons head before =>
                rw [totalSlots, slotCount_eq] at zero
                omega
      | succ index =>
          rw [List.getElem?_cons_succ, inductionHypothesis]
          constructor
          · intro found
            obtain ⟨before, constant, after, rfl, rfl, isSlot⟩ := found
            refine ⟨first :: before, constant, after, rfl, ?_, isSlot⟩
            rw [totalSlots, slotCount_eq]
            omega
          · intro found
            obtain ⟨before, constant, after, same, position, isSlot⟩ := found
            cases before with
            | nil => cases position
            | cons head before =>
                obtain ⟨rfl, rfl⟩ := List.cons.inj same
                rw [totalSlots, slotCount_eq] at position
                exact ⟨before, constant, after, rfl, by omega, isSlot⟩

end SurfaceDiff.ClassFile.Layout
