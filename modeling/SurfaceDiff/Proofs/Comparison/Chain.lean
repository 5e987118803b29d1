import SurfaceDiff.Proofs.Comparison.Mirror
import SurfaceDiff.Proofs.Comparison.Session

/-!
Contract: the three comparisons between three versions of a surface.

Owns: what a surface holds at a level, the items that lie around another one, and `TriangleLaw`, by which
all that the outer two versions differ in is reported on the way over the middle one.
Does not own: what a single comparison reports.

The middle version can lack an item because it lacks the item's type or its package, and then the loss is
reported for these. So each case goes up the levels to the first one that the middle version still has.
-/

namespace SurfaceDiff

open Text

/-- The item that a level lies in: a package, or a type of a package. -/
def Place.holder? : Place → Option (Place × CodePoints)
  | .packages => none
  | .types package => some (.packages, package)
  | .methods package type => some (.types package, type)

/-- An item with the type and the package that it lies in. -/
def Place.around : Place → CodePoints → List (Place × CodePoints)
  | .packages, name => [(.packages, name)]
  | .types package, name => [(.types package, name), (.packages, package)]
  | .methods package type, key =>
    [(.methods package type, key), (.types package, type), (.packages, package)]

theorem Place.mem_around_self (place : Place) (key : CodePoints) : (place, key) ∈ place.around key := by
  cases place <;> exact List.mem_cons_self

theorem Place.mem_around_of_holder? {place : Place} {holder around : Place × CodePoints}
    (inside : place.holder? = some holder) (isAround : around ∈ holder.1.around holder.2)
    (key : CodePoints) : around ∈ place.around key := by
  cases place with
  | packages => cases inside
  | types package =>
      cases inside
      exact List.mem_cons_of_mem _ isAround
  | methods package type =>
      cases inside
      exact List.mem_cons_of_mem _ isAround

/-- The surface has an item of this key at this level. -/
def Surface.Holds (surface : Surface) : Place → CodePoints → Prop
  | .packages, name => (surface.package? name).isSome
  | .types package, name => (surface.type? package name).isSome
  | .methods package type, key => ((surface.type? package type).bind fun decl =>
      decl.method? key).isSome

/-- The surface has the level itself. -/
def Surface.Spans (surface : Surface) (place : Place) : Prop :=
  ∀ holder ∈ place.holder?, surface.Holds holder.1 holder.2

theorem Surface.spans_packages (surface : Surface) : surface.Spans .packages :=
  nofun

theorem Surface.spans_types (surface : Surface) (package : CodePoints) :
    surface.Spans (.types package) ↔ surface.Holds .packages package := by
  simp [Spans, Place.holder?]

theorem Surface.spans_methods (surface : Surface) (package type : CodePoints) :
    surface.Spans (.methods package type) ↔ surface.Holds (.types package) type := by
  simp [Spans, Place.holder?]

/-- What lies in something is missing where that is missing. -/
theorem Surface.Holds.spans {surface : Surface} {place : Place} {key : CodePoints}
    (holds : surface.Holds place key) : surface.Spans place := by
  cases place with
  | packages => exact surface.spans_packages
  | types package =>
      rw [spans_types]
      exact Option.isSome_of_isSome_bind holds
  | methods package type =>
      rw [spans_methods]
      exact Option.isSome_of_isSome_bind holds

namespace Comparison

/-- The comparison hands over this item. -/
def Reported (detectChanges : Bool) (left right : Surface) (item : Item) : Prop :=
  item ∈ handedOver (findings detectChanges left right)

/-- The comparison hands over the item with this outcome, or its type or its package. -/
def ReportedAround (detectChanges : Bool) (left right : Surface) (outcome : Outcome)
    (place : Place) (key : CodePoints) : Prop :=
  ∃ around ∈ place.around key, Reported detectChanges left right ⟨around.1, outcome, around.2⟩

/-- What the comparison of the first version with the third one has to do with the two comparisons on
the way over the second one. -/
structure TriangleLaw (detectChanges : Bool) (first second third : Surface) : Prop where
  entries : ∀ left right,
    (Surface.compare ⟨Collected.sink, detectChanges⟩ {} left right).state.entries.toList =
      (findings detectChanges left right).map Finding.entry
  removed : ∀ place key, Reported detectChanges first third ⟨place, .removed, key⟩ →
    Reported detectChanges second third ⟨place, .removed, key⟩ ∨
      ReportedAround detectChanges first second .removed place key
  added : ∀ place key, Reported detectChanges first third ⟨place, .added, key⟩ →
    Reported detectChanges first second ⟨place, .added, key⟩ ∨
      ReportedAround detectChanges second third .added place key
  changed : ∀ place key, Reported detectChanges first third ⟨place, .changed, key⟩ →
    Reported detectChanges first second ⟨place, .changed, key⟩ ∨
      Reported detectChanges second third ⟨place, .changed, key⟩ ∨
      ReportedAround detectChanges first second .removed place key
  silent : (Surface.compare ⟨Collected.sink, detectChanges⟩ {} first second).state.entries = #[] →
    (Surface.compare ⟨Collected.sink, detectChanges⟩ {} second third).state.entries = #[] →
    (Surface.compare ⟨Collected.sink, detectChanges⟩ {} first third).state.entries = #[]

/-! ## Items that one side only holds -/

theorem reported_removed_iff (detectChanges : Bool) (left right : Surface) (place : Place)
    (key : CodePoints) :
    Reported detectChanges left right ⟨place, .removed, key⟩ ↔
      left.Holds place key ∧ right.Spans place ∧ ¬right.Holds place key := by
  unfold Reported
  rw [mem_handedOver]
  cases place with
  | packages => simp [Differs, PresenceDiffers, Surface.Holds, Surface.spans_packages]
  | types package =>
      simp only [Differs, PresenceDiffers, Surface.spans_types, Surface.Holds, Surface.type?]
      cases left.package? package with
      | none => simp
      | some first => cases right.package? package <;> simp
  | methods package type =>
      simp only [Differs, PresenceDiffers, Surface.spans_methods, Surface.Holds]
      cases left.type? package type with
      | none => simp
      | some first => cases right.type? package type <;> simp

theorem reported_added_iff (detectChanges : Bool) (left right : Surface) (place : Place)
    (key : CodePoints) :
    Reported detectChanges left right ⟨place, .added, key⟩ ↔
      Reported detectChanges right left ⟨place, .removed, key⟩ := by
  unfold Reported
  rw [mem_handedOver, mem_handedOver]
  cases place with
  | packages => simp [Differs, PresenceDiffers, and_comm]
  | types package =>
      constructor
      · rintro ⟨first, second, isFirst, isSecond, differ⟩
        exact ⟨second, first, isSecond, isFirst, differ.symm⟩
      · rintro ⟨first, second, isFirst, isSecond, differ⟩
        exact ⟨second, first, isSecond, isFirst, differ.symm⟩
  | methods package type =>
      constructor
      · rintro ⟨first, second, isFirst, isSecond, differ | ⟨isChange, _⟩⟩
        · exact ⟨second, first, isSecond, isFirst, .inl differ.symm⟩
        · cases isChange
      · rintro ⟨first, second, isFirst, isSecond, differ | ⟨isChange, _⟩⟩
        · exact ⟨second, first, isSecond, isFirst, .inl differ.symm⟩
        · cases isChange

theorem not_reportedAround {detectChanges : Bool} {left right : Surface}
    (nothing : ∀ item, ¬Reported detectChanges left right item) (outcome : Outcome) (place : Place)
    (key : CodePoints) : ¬ReportedAround detectChanges left right outcome place key := by
  rintro ⟨around, _, reported⟩
  exact nothing _ reported

theorem reportedAround_added_iff (detectChanges : Bool) (left right : Surface) (place : Place)
    (key : CodePoints) :
    ReportedAround detectChanges left right .added place key ↔
      ReportedAround detectChanges right left .removed place key := by
  unfold ReportedAround
  simp only [reported_added_iff]

/-! ## Items that get lost -/

section Lost

variable {detectChanges : Bool} {left right : Surface} {place : Place} {key : CodePoints}

/-- One level up: where the item's own level is lost, the loss of what it lies in is reported. -/
theorem reportedAround_of_holder (holds : left.Holds place key) (lost : ¬right.Holds place key)
    (above : ∀ holder ∈ place.holder?, ¬right.Holds holder.1 holder.2 →
      ReportedAround detectChanges left right .removed holder.1 holder.2) :
    ReportedAround detectChanges left right .removed place key := by
  by_cases spans : right.Spans place
  · refine ⟨(place, key), place.mem_around_self key, ?_⟩
    exact (reported_removed_iff _ _ _ _ _).mpr ⟨holds, spans, lost⟩
  · unfold Surface.Spans at spans
    push Not at spans
    obtain ⟨holder, inside, holderLost⟩ := spans
    obtain ⟨around, isAround, reported⟩ := above holder inside holderLost
    exact ⟨around, Place.mem_around_of_holder? inside isAround key, reported⟩

/-- What only the left surface holds is reported as removed, or its type or its package is. -/
theorem reportedAround_of_lost (holds : left.Holds place key) (lost : ¬right.Holds place key) :
    ReportedAround detectChanges left right .removed place key := by
  have packages : ∀ {name}, left.Holds .packages name → ¬right.Holds .packages name →
      ReportedAround detectChanges left right .removed .packages name :=
    fun holds lost => reportedAround_of_holder holds lost nofun
  have types : ∀ {package name}, left.Holds (.types package) name →
      ¬right.Holds (.types package) name →
      ReportedAround detectChanges left right .removed (.types package) name := by
    intro package name holds lost
    refine reportedAround_of_holder holds lost fun holder inside => ?_
    cases inside
    exact packages ((left.spans_types package).mp holds.spans)
  cases place with
  | packages => exact packages holds lost
  | types package => exact types holds lost
  | methods package type =>
      refine reportedAround_of_holder holds lost fun holder inside => ?_
      cases inside
      exact types ((left.spans_methods package type).mp holds.spans)

end Lost

/-! ## The three comparisons -/

section Triangle

variable {detectChanges : Bool} {first second third : Surface} {place : Place} {key : CodePoints}

theorem removed_over (removed : Reported detectChanges first third ⟨place, .removed, key⟩) :
    Reported detectChanges second third ⟨place, .removed, key⟩ ∨
      ReportedAround detectChanges first second .removed place key := by
  obtain ⟨holds, spans, gone⟩ := (reported_removed_iff _ _ _ _ _).mp removed
  by_cases kept : second.Holds place key
  · exact .inl ((reported_removed_iff _ _ _ _ _).mpr ⟨kept, spans, gone⟩)
  · exact .inr (reportedAround_of_lost holds kept)

/-- Additions are the removals on the way back. -/
theorem added_over (added : Reported detectChanges first third ⟨place, .added, key⟩) :
    Reported detectChanges first second ⟨place, .added, key⟩ ∨
      ReportedAround detectChanges second third .added place key := by
  rw [reported_added_iff, reportedAround_added_iff]
  rw [reported_added_iff] at added
  exact removed_over added

/-- Only the methods of a type are reported as changed, if their bodies differ. -/
theorem reported_changed_iff (detectChanges : Bool) (left right : Surface) (place : Place)
    (key : CodePoints) :
    Reported detectChanges left right ⟨place, .changed, key⟩ ↔
      ∃ package type before after, place = .methods package type ∧
        left.type? package type = some before ∧ right.type? package type = some after ∧
        BodyDiffers detectChanges before after key := by
  unfold Reported
  rw [mem_handedOver]
  cases place with
  | packages => simp [Differs, PresenceDiffers]
  | types package => simp [Differs, PresenceDiffers]
  | methods package type =>
      constructor
      · rintro ⟨before, after, isBefore, isAfter, presence | ⟨_, differ⟩⟩
        · cases presence
        · exact ⟨package, type, before, after, rfl, isBefore, isAfter, differ⟩
      · rintro ⟨_, _, before, after, ⟨⟩, isBefore, isAfter, differ⟩
        exact ⟨before, after, isBefore, isAfter, .inr ⟨rfl, differ⟩⟩

/-- A body that differs between the outer versions differs on one of the two steps between them. -/
theorem changed_over (isFirst : first.HasPlainNames) (isSecond : second.HasPlainNames)
    (agree : EnumsAgree first second)
    (changed : Reported detectChanges first third ⟨place, .changed, key⟩) :
    Reported detectChanges first second ⟨place, .changed, key⟩ ∨
      Reported detectChanges second third ⟨place, .changed, key⟩ ∨
      ReportedAround detectChanges first second .removed place key := by
  rw [reported_changed_iff] at changed
  obtain ⟨package, type, before, after, rfl, isBefore, isAfter, differs⟩ := changed
  obtain ⟨detects, isNoEnum, old, new, isOld, isNew, compared, codes⟩ := differs
  by_cases kept : second.Holds (.methods package type) key
  · obtain ⟨current, found⟩ := Option.isSome_iff_exists.mp kept
    obtain ⟨between, isBetween, isCurrent⟩ := Option.bind_eq_some_iff.mp found
    have sameName : current.name = old.name :=
      (isFirst.of_type? isBefore).name_eq_of_method? (isSecond.of_type? isBetween) isOld isCurrent
    have sameFlag : before.isEnum = between.isEnum := agree package type _ _ isBefore isBetween
    by_cases same : old.code = current.code
    · right
      left
      rw [reported_changed_iff]
      refine ⟨package, type, between, after, rfl, isBetween, isAfter, detects, ?_, current, new,
        isCurrent, isNew, ?_, ?_⟩
      · rw [← sameFlag, isNoEnum]
      · rwa [sameName]
      · rwa [← same]
    · left
      rw [reported_changed_iff]
      exact ⟨package, type, before, between, rfl, isBefore, isBetween, detects, isNoEnum, old, current,
        isOld, isCurrent, compared, same⟩
  · right
    right
    refine reportedAround_of_lost ?_ kept
    show ((first.type? package type).bind fun decl => decl.method? key).isSome
    rw [isBefore, Option.bind_some, isOld]
    rfl

end Triangle

theorem entries_eq_empty_iff (detectChanges : Bool) (left right : Surface) :
    (Surface.compare ⟨Collected.sink, detectChanges⟩ {} left right).state.entries = #[] ↔
      ∀ item, ¬Reported detectChanges left right item := by
  have entries : (Surface.compare ⟨Collected.sink, detectChanges⟩ {} left right).state.entries.toList =
      (findings detectChanges left right).map Finding.entry :=
    Collected.entries_compare {} left right detectChanges
  rw [← Array.toList_eq_nil_iff, entries, List.map_eq_nil_iff, findings_eq_nil_iff, agree_iff]
  unfold Reported
  simp only [mem_handedOver]

/-- **What the outer two of three versions differ in is reported on the way over the middle one.** -/
theorem compare_over_middle (detectChanges : Bool) (first second third : Surface)
    (isFirst : first.HasPlainNames) (isSecond : second.HasPlainNames)
    (agree : EnumsAgree first second) : TriangleLaw detectChanges first second third := by
  constructor
  case entries => exact fun left right => Collected.entries_compare {} left right detectChanges
  case removed => exact fun _ _ => removed_over
  case added => exact fun _ _ => added_over
  case changed => exact fun _ _ => changed_over isFirst isSecond agree
  case silent =>
    simp only [entries_eq_empty_iff]
    intro before after item reported
    obtain ⟨place, outcome, key⟩ := item
    cases outcome with
    | removed =>
        rcases removed_over reported with there | here
        · exact after _ there
        · exact not_reportedAround before _ _ _ here
    | added =>
        rcases added_over reported with here | there
        · exact before _ here
        · exact not_reportedAround after _ _ _ there
    | changed =>
        rcases changed_over isFirst isSecond agree reported with here | there | lost
        · exact before _ here
        · exact after _ there
        · exact not_reportedAround before _ _ _ lost

theorem mirrorSample_enumsAgree (accessFlags : Int) (code other : List UInt8) :
    EnumsAgree (mirrorSample accessFlags code) (mirrorSample accessFlags other) := by
  have flags : ∀ code package name decl,
      (mirrorSample accessFlags code).type? package name = some decl →
      decl.accessFlags = accessFlags := by
    intro code package name decl found
    obtain ⟨holder, isPackage, isType⟩ := (Surface.type?_eq_some_iff _ _ _ _).mp found
    obtain rfl := List.mem_singleton.mp (List.mem_of_find?_eq_some isPackage)
    obtain rfl := List.mem_singleton.mp (List.mem_of_find?_eq_some isType)
    rfl
  intro package name first second isFirst isSecond
  unfold ClassDecl.isEnum
  rw [flags _ _ _ _ isFirst, flags _ _ _ _ isSecond]

/-- The body changes with each version. -/
theorem compare_over_middle_bodies :
    (mirrorSample 0 [0xB1]).HasPlainNames ∧ (mirrorSample 0 [0x00, 0xB1]).HasPlainNames ∧
      EnumsAgree (mirrorSample 0 [0xB1]) (mirrorSample 0 [0x00, 0xB1]) ∧
      TriangleLaw true (mirrorSample 0 [0xB1]) (mirrorSample 0 [0x00, 0xB1])
        (mirrorSample 0 [0x00, 0x00, 0xB1]) ∧
      reportsOf .changed (findings true (mirrorSample 0 [0xB1]) (mirrorSample 0 [0x00, 0x00, 0xB1])) =
        [(.methods (.ofString "p") (.ofString "A"), [.ofString "run :: ()V"])] :=
  have isFirst := mirrorSample_hasPlainNames 0 [0xB1]
  have isSecond := mirrorSample_hasPlainNames 0 [0x00, 0xB1]
  have agree := mirrorSample_enumsAgree 0 [0xB1] [0x00, 0xB1]
  ⟨isFirst, isSecond, agree, compare_over_middle true _ _ _ isFirst isSecond agree, by decide⟩

end Comparison

end SurfaceDiff
