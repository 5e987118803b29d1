import SurfaceDiff.Text.CodePoint

/-!
Contract: the code-point order of texts as a relation of its own.

Owns: `Precedes`, strictly increasing lists of texts, and the agreement of both with the comparison
by which maps keep their keys; and that a list in increasing order is determined by its members.
Does not own: any map.
-/

namespace SurfaceDiff.Text.CodePoints

/-- The first code point in which two texts differ decides; a text precedes its continuations. -/
def Precedes : CodePoints → CodePoints → Prop :=
  List.Lex fun first second => first.value < second.value

/-- Each text precedes all that come after it. -/
def Increasing (texts : List CodePoints) : Prop :=
  texts.Pairwise Precedes

theorem compare_eq_lt_iff_precedes (first second : CodePoints) :
    compare first second = .lt ↔ Precedes first second := by
  unfold Precedes
  induction first generalizing second with
  | nil =>
      cases second with
      | nil => simp
      | cons head tail => simp [List.compare_nil_cons]
  | cons point rest inductionHypothesis =>
      cases second with
      | nil => simp [List.compare_cons_nil]
      | cons head tail =>
          have less : compare point head = .lt ↔ point.value < head.value := Nat.compare_eq_lt
          have same : compare point head = .eq ↔ point = head := Std.LawfulEqOrd.compare_eq_iff_eq
          rw [List.compare_cons_cons, List.cons_lex_cons_iff, ← inductionHypothesis tail,
            Ordering.then_eq_lt, less, same]

theorem ofString_inj {first second : String} (same : ofString first = ofString second) :
    first = second := by
  have letters : ∀ {left right : Char}, CodePoint.ofChar left = .ofChar right → left = right :=
    fun equal => Char.toNat_inj.mp (congrArg CodePoint.value equal)
  exact String.toList_inj.mp (List.map_inj_right (fun _ _ => letters) |>.mp same)

/-- Strings are ordered by code points as well. -/
theorem precedes_ofString_iff (first second : String) :
    Precedes (.ofString first) (.ofString second) ↔ first < second := by
  have letters (left right : Char) : (CodePoint.ofChar left).value < (CodePoint.ofChar right).value ↔
      left < right := Iff.rfl
  have same (left right : Char) : CodePoint.ofChar left = .ofChar right ↔ left = right :=
    ⟨fun equal => Char.toNat_inj.mp (congrArg CodePoint.value equal), congrArg CodePoint.ofChar⟩
  rw [String.lt_iff, ← List.lex_lt]
  unfold Precedes ofString
  generalize first.toList = characters, second.toList = others
  induction characters generalizing others with
  | nil => cases others <;> simp
  | cons character rest inductionHypothesis =>
      cases others with
      | nil => simp
      | cons other others =>
          rw [List.map_cons, List.map_cons, List.cons_lex_cons_iff, List.cons_lex_cons_iff, letters, same]
          exact or_congr_right (and_congr_right fun _ => inductionHypothesis others)

theorem Precedes.ne {first second : CodePoints} (precedes : Precedes first second) :
    first ≠ second := by
  intro same
  rw [same, ← compare_eq_lt_iff_precedes, Std.ReflOrd.compare_self] at precedes
  contradiction

theorem Precedes.asymm {first second : CodePoints} (precedes : Precedes first second) :
    ¬Precedes second first := by
  intro reverse
  rw [← compare_eq_lt_iff_precedes] at precedes reverse
  rw [Std.OrientedOrd.eq_swap, reverse] at precedes
  contradiction

theorem Increasing.nodup {texts : List CodePoints} (increasing : Increasing texts) :
    texts.Nodup :=
  increasing.imp Precedes.ne

/-- What lists in increasing order of keys hold determines them. -/
theorem Increasing.eq_of_mem_iff {α : Type} (key : α → CodePoints) {first second : List α}
    (isFirst : Increasing (first.map key)) (isSecond : Increasing (second.map key))
    (same : ∀ item, item ∈ first ↔ item ∈ second) : first = second := by
  have nodup : ∀ {items : List α}, Increasing (items.map key) → items.Nodup := by
    intro items increasing
    exact (List.pairwise_map.mp increasing).imp fun precedes equal =>
      precedes.ne (congrArg key equal)
  have permuted : first.Perm second :=
    (List.perm_ext_iff_of_nodup (nodup isFirst) (nodup isSecond)).mpr same
  refine permuted.eq_of_pairwise ?_ (List.pairwise_map.mp isFirst) (List.pairwise_map.mp isSecond)
  intro item other _ _ precedes reverse
  exact absurd reverse precedes.asymm

theorem Increasing.ext {first second : List CodePoints} (isFirst : Increasing first)
    (isSecond : Increasing second) (same : ∀ text, text ∈ first ↔ text ∈ second) : first = second := by
  rw [← List.map_id first] at isFirst
  rw [← List.map_id second] at isSecond
  exact isFirst.eq_of_mem_iff id isSecond same

theorem Increasing.filter {texts : List CodePoints} (increasing : Increasing texts)
    (keep : CodePoints → Bool) : Increasing (texts.filter keep) :=
  List.Pairwise.filter keep increasing

end SurfaceDiff.Text.CodePoints
