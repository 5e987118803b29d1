import Mathlib.Data.List.Chain
import SurfaceDiff.Text.CodePoint

/-!
Contract: which texts hold surrogates, and what joining pairs changes.

Owns: `SurrogateFree`, `Unpaired`, the exact domain of `toString?`, and the texts that `joinPairs`
leaves alone.
Does not own: any byte encoding.
-/

namespace SurfaceDiff.Text

namespace CodePoint

def IsSurrogate (point : CodePoint) : Prop :=
  0xD800 ≤ point.value ∧ point.value ≤ 0xDFFF

instance (point : CodePoint) : Decidable point.IsSurrogate := by
  unfold IsSurrogate
  infer_instance

theorem toChar?_of_valid {point : CodePoint} (valid : point.value.isValidChar) :
    point.toChar? = some (Char.ofNatAux point.value valid) :=
  dif_pos valid

theorem toChar?_eq_some_iff (point : CodePoint) (character : Char) :
    point.toChar? = some character ↔ point = .ofChar character := by
  constructor
  · intro converted
    by_cases valid : point.value.isValidChar
    · rw [toChar?_of_valid valid] at converted
      obtain rfl := Option.some.inj converted
      rfl
    · have failed : point.toChar? = none := dif_neg valid
      rw [failed] at converted
      cases converted
  · intro same
    have sameValue : point.value = character.toNat := congrArg value same
    have valid : point.value.isValidChar := sameValue ▸ character.valid
    rw [toChar?_of_valid valid]
    exact congrArg some (Char.toNat_inj.mp sameValue)

theorem toChar?_eq_none_iff (point : CodePoint) :
    point.toChar? = none ↔ point.IsSurrogate := by
  have bound := point.value_le
  have validity : ¬point.value.isValidChar ↔ point.IsSurrogate := by
    unfold Nat.isValidChar IsSurrogate
    omega
  rw [← validity]
  constructor
  · intro failed valid
    rw [toChar?_of_valid valid] at failed
    cases failed
  · exact fun invalid => dif_neg invalid

end CodePoint

namespace CodePoints

def SurrogateFree (points : CodePoints) : Prop :=
  ∀ point ∈ points, ¬point.IsSurrogate

instance (points : CodePoints) : Decidable (SurrogateFree points) := by
  unfold SurrogateFree
  infer_instance

/-- Surrogates can stand in the text, but no two of them make a pair. -/
def Unpaired (points : CodePoints) : Prop :=
  points.IsChain fun first second => ¬(first.IsHigh ∧ second.IsLow)

/-! ## Texts as strings -/

theorem toString?_eq_some_iff (points : CodePoints) (text : String) :
    toString? points = some text ↔ points = .ofString text := by
  have converted (characters : List Char) : points.mapM CodePoint.toChar? = some characters ↔
      points = characters.map .ofChar := by
    induction points generalizing characters with
    | nil => cases characters <;> simp
    | cons point rest inductionHypothesis =>
        cases characters with
        | nil => simp [List.mapM_cons, Option.bind_eq_some_iff]
        | cons character characters =>
            simp [List.mapM_cons, Option.bind_eq_some_iff, inductionHypothesis,
              CodePoint.toChar?_eq_some_iff]
  unfold toString? ofString
  rw [Option.map_eq_some_iff, ← converted]
  constructor
  · intro made
    rcases made with ⟨characters, isText, rfl⟩
    rw [isText, String.toList_ofList]
  · intro isText
    exact ⟨_, isText, String.ofList_toList⟩

theorem surrogateFree_ofString (text : String) : SurrogateFree (.ofString text) := by
  intro point inText isSurrogate
  obtain ⟨character, _, rfl⟩ := List.mem_map.mp inText
  have converted := (CodePoint.toChar?_eq_some_iff (.ofChar character) character).mpr rfl
  rw [(CodePoint.toChar?_eq_none_iff _).mpr isSurrogate] at converted
  cases converted

/-- A text is a string exactly if no surrogate stands in it. -/
theorem surrogateFree_iff_exists (points : CodePoints) :
    SurrogateFree points ↔ ∃ text, points = .ofString text := by
  constructor
  · intro free
    induction points with
    | nil => exact ⟨"", rfl⟩
    | cons point rest inductionHypothesis =>
        obtain ⟨notSurrogate, free⟩ := List.forall_mem_cons.mp free
        obtain ⟨text, rfl⟩ := inductionHypothesis free
        rw [← CodePoint.toChar?_eq_none_iff, Option.eq_none_iff_forall_ne_some] at notSurrogate
        push Not at notSurrogate
        obtain ⟨character, converted⟩ := notSurrogate
        rw [CodePoint.toChar?_eq_some_iff] at converted
        exact ⟨.ofList (character :: text.toList), by simp [ofString, converted]⟩
  · intro isText
    rcases isText with ⟨text, rfl⟩
    exact surrogateFree_ofString text

theorem toString?_eq_none_iff (points : CodePoints) :
    toString? points = none ↔ ¬SurrogateFree points := by
  rw [surrogateFree_iff_exists, Option.eq_none_iff_forall_ne_some, not_exists]
  exact forall_congr' fun text => not_congr (toString?_eq_some_iff points text)

/-! ## Joining pairs -/

theorem SurrogateFree.unpaired {points : CodePoints} (free : SurrogateFree points) :
    Unpaired points := by
  refine (List.pairwise_of_forall_mem_list fun first inText second _ pair => ?_).isChain
  have highest := pair.1.2
  exact free first inText ⟨pair.1.1, by omega⟩

theorem joinPairs_cons (point : CodePoint) (points : CodePoints) :
    joinPairs (point :: points) = prependJoining point (joinPairs points) :=
  rfl

theorem joinPairs_of_unpaired {points : CodePoints} (unpaired : Unpaired points) :
    joinPairs points = points := by
  induction points with
  | nil => rfl
  | cons point rest inductionHypothesis =>
      rw [joinPairs_cons, inductionHypothesis unpaired.tail]
      cases rest with
      | nil => rfl
      | cons next rest => exact if_neg unpaired.rel

theorem joinPairs_of_surrogateFree {points : CodePoints} (free : SurrogateFree points) :
    joinPairs points = points :=
  joinPairs_of_unpaired free.unpaired

/-- A join leaves a supplementary code point behind, so without one nothing was joined. -/
theorem eq_joinPairs_of_basic {points : CodePoints}
    (basic : ∀ point ∈ joinPairs points, point.value < 0x10000) : joinPairs points = points := by
  induction points with
  | nil => rfl
  | cons point rest inductionHypothesis =>
      rw [joinPairs_cons] at basic ⊢
      unfold prependJoining at basic ⊢
      split
      case h_1 isEmpty =>
        rw [← inductionHypothesis (by simp [isEmpty]), isEmpty]
      case h_2 next rest isCons =>
        rw [isCons] at basic inductionHypothesis
        dsimp only at basic
        split at basic
        case isTrue =>
          have small := basic _ List.mem_cons_self
          dsimp only [CodePoint.joined] at small
          omega
        case isFalse apart =>
          rw [if_neg apart, inductionHypothesis (List.forall_mem_cons.mp basic).2]

/-- No pair is left over: a joined code point is no surrogate. -/
theorem unpaired_joinPairs (points : CodePoints) : Unpaired (joinPairs points) := by
  induction points with
  | nil => exact List.IsChain.nil
  | cons point rest inductionHypothesis =>
      rw [joinPairs_cons]
      unfold prependJoining
      split
      case h_1 => exact List.IsChain.singleton point
      case h_2 next rest isCons =>
        rw [isCons] at inductionHypothesis
        split
        case isTrue =>
          have notHigh : ¬(point.joined next).IsHigh := fun isHigh => by
            have highest := isHigh.2
            simp only [CodePoint.joined] at highest
            omega
          exact List.isChain_cons.mpr
            ⟨fun other _ pair => notHigh pair.1, inductionHypothesis.tail⟩
        case isFalse apart => exact inductionHypothesis.cons_cons apart

/-- A text without surrogates between two texts keeps them apart. -/
theorem Unpaired.append {first separator second : CodePoints} (isFirst : Unpaired first)
    (isSecond : Unpaired second) (free : SurrogateFree separator) (nonempty : separator ≠ []) :
    Unpaired (first ++ separator ++ second) := by
  have between : ∀ point ∈ separator, ¬point.IsHigh ∧ ¬point.IsLow := by
    intro point member
    have notSurrogate := free point member
    simp only [CodePoint.IsSurrogate, CodePoint.IsHigh, CodePoint.IsLow] at notSurrogate ⊢
    omega
  have front : Unpaired (first ++ separator) := by
    refine List.isChain_append.mpr ⟨isFirst, free.unpaired, ?_⟩
    intro last _ head isHead pair
    exact (between head (List.mem_of_mem_head? isHead)).2 pair.2
  refine List.isChain_append.mpr ⟨front, isSecond, ?_⟩
  intro last isLast head _ pair
  rw [List.getLast?_append_of_ne_nil _ nonempty] at isLast
  exact (between last (List.mem_of_mem_getLast? isLast)).1 pair.1

end CodePoints

end SurfaceDiff.Text
