import Mathlib.Data.List.Infix
import Mathlib.Data.Set.Insert
import SurfaceDiff.Identity

/-!
Contract: how far the key of a method tells its name and its descriptor.

Owns: `Method.SharesKey`, the ways in which two methods come to one key; the theorem that there are no
others; and the names and descriptors that no separator reaches into, for which the key determines
both parts.

The separator begins and ends with a blank, so that two of them can overlap in it. A name that ends
in the rest of the separator is therefore as ambiguous as one that holds all of it.
-/

namespace SurfaceDiff

open Text

namespace Method

/-- The start of the separator does not occur in the name. -/
def HasPlainName (method : Method) : Prop :=
  ¬CodePoints.ofString " ::" <:+: method.name

/-- The end of the separator does not occur in the descriptor. -/
def HasPlainDescriptor (method : Method) : Prop :=
  ¬CodePoints.ofString ":: " <:+: method.descriptor

instance (method : Method) : Decidable method.HasPlainName :=
  inferInstanceAs (Decidable ¬CodePoints.ofString " ::" <:+: method.name)

instance (method : Method) : Decidable method.HasPlainDescriptor :=
  inferInstanceAs (Decidable ¬CodePoints.ofString ":: " <:+: method.descriptor)

/-- Both parts are the same in two methods. -/
def SameParts (first second : Method) : Prop :=
  first.name = second.name ∧ first.descriptor = second.descriptor

/-- The ways in which two methods, the first one with the shorter name, come to one key: alike, with
separators that overlap in a blank, or with the separator of the second one in the descriptor of the
first. -/
inductive SharesKey (first second : Method) : Prop where
  | alike (same : first.SameParts second)
  | overlapping (name : second.name = first.name ++ .ofString " ::")
      (descriptor : first.descriptor = .ofString ":: " ++ second.descriptor)
  | spanning (between : CodePoints) (name : second.name = first.name ++ .ofString " :: " ++ between)
      (descriptor : first.descriptor = between ++ .ofString " :: " ++ second.descriptor)

/-! ## Shifted separators -/

/-- Two texts begin with the separator, the second one shifted to the right. A shift by one or two would put
the blank of one separator on a colon of the other. -/
theorem shift_cases {shift first second : CodePoints}
    (same : keySeparator ++ first = shift ++ (keySeparator ++ second)) :
    shift = [] ∧ first = second ∨
      shift = .ofString " ::" ∧ first = .ofString ":: " ++ second ∨
        ∃ between, shift = .ofString " :: " ++ between ∧
          first = between ++ .ofString " :: " ++ second := by
  have blankNeColon : CodePoint.ofChar ' ' ≠ .ofChar ':' := by decide
  have separator : keySeparator = [.ofChar ' ', .ofChar ':', .ofChar ':', .ofChar ' '] := rfl
  rw [separator] at same
  match shift with
  | [] => exact .inl ⟨rfl, by simpa using same⟩
  | [_] => simp [blankNeColon.symm] at same
  | [_, _] => simp [blankNeColon.symm] at same
  | [point, next, third] =>
      simp only [List.cons_append, List.nil_append, List.cons.injEq] at same
      obtain ⟨rfl, rfl, rfl, _, rfl⟩ := same
      exact .inr (.inl ⟨rfl, rfl⟩)
  | point :: next :: third :: fourth :: between =>
      simp only [List.cons_append, List.nil_append, List.cons.injEq] at same
      obtain ⟨rfl, rfl, rfl, rfl, rfl⟩ := same
      exact .inr (.inr ⟨between, rfl, (List.append_assoc between keySeparator second).symm⟩)

theorem SharesKey.key_eq {first second : Method} (shares : first.SharesKey second) :
    first.key = second.key := by
  unfold key
  cases shares with
  | alike same => rw [same.1, same.2]
  | overlapping name descriptor =>
      rw [name, descriptor, List.append_assoc, List.append_assoc, List.append_assoc]
      rfl
  | spanning between name descriptor =>
      rw [name, descriptor]
      simp only [List.append_assoc]
      rfl

theorem key_eq_iff_sharesKey {first second : Method}
    (shorter : first.name.length ≤ second.name.length) :
    first.key = second.key ↔ first.SharesKey second := by
  constructor
  · intro same
    unfold key at same
    rw [List.append_assoc, List.append_assoc] at same
    -- Of two starts of one text, the shorter one is a start of the other.
    obtain ⟨shift, longer⟩ : first.name <+: second.name :=
      List.prefix_of_prefix_length_le ⟨_, same⟩ ⟨_, rfl⟩ shorter
    rw [← longer, List.append_assoc, List.append_cancel_left_eq] at same
    rcases shift_cases same with ⟨rfl, descriptor⟩ | ⟨rfl, descriptor⟩ | ⟨between, rfl, descriptor⟩
    · exact .alike ⟨(List.append_nil _).symm.trans longer, descriptor⟩
    · exact .overlapping longer.symm descriptor
    · exact .spanning between ((List.append_assoc _ _ _).trans longer).symm descriptor
  · exact SharesKey.key_eq

/-! ## Plain names and descriptors -/

theorem SharesKey.sameParts_of_plainName {first second : Method} (shares : first.SharesKey second)
    (plain : second.HasPlainName) : first.SameParts second := by
  cases shares with
  | alike same => exact same
  | overlapping name _ => exact absurd (name ▸ (List.suffix_append _ _).isInfix) plain
  | spanning between name _ =>
      have opens : CodePoints.ofString " ::" <:+: CodePoints.ofString " :: " := by decide
      refine absurd (opens.trans ?_) plain
      exact name ▸ (List.infix_append first.name (CodePoints.ofString " :: ") between)

theorem SharesKey.sameParts_of_plainDescriptor {first second : Method}
    (shares : first.SharesKey second) (plain : first.HasPlainDescriptor) :
    first.SameParts second := by
  cases shares with
  | alike same => exact same
  | overlapping _ descriptor => exact absurd (descriptor ▸ (List.prefix_append _ _).isInfix) plain
  | spanning between _ descriptor =>
      have closes : CodePoints.ofString ":: " <:+: CodePoints.ofString " :: " := by decide
      refine absurd (closes.trans ?_) plain
      exact descriptor ▸ (List.infix_append between (CodePoints.ofString " :: ") second.descriptor)

theorem SameParts.symm {first second : Method} (same : first.SameParts second) :
    second.SameParts first :=
  ⟨same.1.symm, same.2.symm⟩

theorem SameParts.key_eq {first second : Method} (same : first.SameParts second) :
    first.key = second.key :=
  (SharesKey.alike same).key_eq

/-- Where sharing a key leaves only one way, whichever name is the shorter one, the key tells the parts. -/
theorem key_eq_iff_sameParts {first second : Method}
    (forth : first.SharesKey second → first.SameParts second)
    (back : second.SharesKey first → second.SameParts first) :
    first.key = second.key ↔ first.SameParts second := by
  constructor
  · intro same
    rcases Nat.le_total first.name.length second.name.length with shorter | shorter
    · exact forth ((key_eq_iff_sharesKey shorter).mp same)
    · exact (back ((key_eq_iff_sharesKey shorter).mp same.symm)).symm
  · exact SameParts.key_eq

theorem name_eq_of_key_eq {first second : Method} (isFirst : first.HasPlainName)
    (isSecond : second.HasPlainName) (same : first.key = second.key) :
    first.name = second.name :=
  ((key_eq_iff_sameParts (fun shares => shares.sameParts_of_plainName isSecond)
    fun shares => shares.sameParts_of_plainName isFirst).mp same).1

/-- **When two methods come to one key.** With the shorter name first, there are three ways and no others.
In a set whose names are all plain, or whose descriptors are, the key determines name and descriptor. -/
theorem key_collisions :
    (∀ first second : Method, first.name.length ≤ second.name.length →
      (first.key = second.key ↔ first.SharesKey second)) ∧
    (∀ methods : Set Method, (∀ method ∈ methods, method.HasPlainName) →
      ∀ first ∈ methods, ∀ second ∈ methods, (first.key = second.key ↔ first.SameParts second)) ∧
    ∀ methods : Set Method, (∀ method ∈ methods, method.HasPlainDescriptor) →
      ∀ first ∈ methods, ∀ second ∈ methods,
        (first.key = second.key ↔ first.SameParts second) := by
  refine ⟨fun _ _ => key_eq_iff_sharesKey, ?_, ?_⟩
  · intro methods plain first isFirst second isSecond
    exact key_eq_iff_sameParts (fun shares => shares.sameParts_of_plainName (plain second isSecond))
      fun shares => shares.sameParts_of_plainName (plain first isFirst)
  · intro methods plain first isFirst second isSecond
    exact key_eq_iff_sameParts
      (fun shares => shares.sameParts_of_plainDescriptor (plain first isFirst))
      fun shares => shares.sameParts_of_plainDescriptor (plain second isSecond)

/-- A method that is known by these two texts. -/
def ofTexts (name descriptor : String) : Method where
  name := .ofString name
  descriptor := .ofString descriptor

/-- Separators that overlap, one inside a descriptor, and in plain sets two overloads and two names kept
apart. -/
theorem key_collisions_overlapping :
    (ofTexts "f" ":: ()V").SharesKey (ofTexts "f ::" "()V") ∧
      (ofTexts "f" ":: ()V").key = (ofTexts "f ::" "()V").key ∧
      (ofTexts "f" "g :: ()V").key = (ofTexts "f :: g" "()V").key ∧
      (ofTexts "f" "()V").HasPlainName ∧ (ofTexts "f" "(I)V").HasPlainName ∧
      (ofTexts "f" "()V").key ≠ (ofTexts "f" "(I)V").key ∧
      (ofTexts "f ::" "()V").HasPlainDescriptor ∧ (ofTexts "f" "()V").HasPlainDescriptor ∧
      (ofTexts "f ::" "()V").key ≠ (ofTexts "f" "()V").key := by
  have overlapping : (ofTexts "f" ":: ()V").SharesKey (ofTexts "f ::" "()V") := .overlapping rfl rfl
  have spanning : (ofTexts "f" "g :: ()V").SharesKey (ofTexts "f :: g" "()V") :=
    .spanning (.ofString "g") rfl rfl
  have plainNames : ∀ method ∈ ({ofTexts "f" "()V", ofTexts "f" "(I)V"} : Set Method),
      method.HasPlainName := by
    rintro _ (rfl | rfl) <;> decide
  have plainDescriptors : ∀ method ∈ ({ofTexts "f ::" "()V", ofTexts "f" "()V"} : Set Method),
      method.HasPlainDescriptor := by
    rintro _ (rfl | rfl) <;> decide
  refine ⟨overlapping, (key_collisions.1 _ _ (by decide)).mpr overlapping,
    (key_collisions.1 _ _ (by decide)).mpr spanning, plainNames _ (.inl rfl), plainNames _ (.inr rfl),
    fun same => ?_, plainDescriptors _ (.inl rfl), plainDescriptors _ (.inr rfl), fun same => ?_⟩
  · have parts := (key_collisions.2.1 _ plainNames _ (.inl rfl) _ (.inr rfl)).mp same
    exact absurd parts.2 (by decide)
  · have parts := (key_collisions.2.2 _ plainDescriptors _ (.inl rfl) _ (.inr rfl)).mp same
    exact absurd parts.1 (by decide)

end Method

end SurfaceDiff
