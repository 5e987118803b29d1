import SurfaceDiff.Proofs.Text.ModifiedUtf8
import SurfaceDiff.Text.Wide

/-!
Contract: the two ways in which units become a text, and that either reads back what was encoded.

Owns: big-endian UTF-16 with lone surrogates passed through; `textOfUnits`, which takes that way as soon
as one surrogate is among the units; its agreement with `decode`; and the round trip of all texts in
which no two surrogates make a pair.
Does not own: byte strings that no text is encoded as.

UTF-16 pairs surrogates from the front, `joinPairs` joins them from the back. Both come to the same,
because a low surrogate is never the first half of a pair.
-/

namespace SurfaceDiff.Text

open CodePoints

instance (points : CodePoints) : Decidable (Unpaired points) :=
  inferInstanceAs (Decidable (points.IsChain _))

/-! ## UTF-16 with lone surrogates -/

namespace Utf16

/-- The unit that two bytes are, the high one first. -/
def unitOf (first second : UInt8) : CodePoint where
  value := ByteOrder.bigEndian.value [first, second]
  value_le := by
    have firstBound := first.toNat_lt
    have secondBound := second.toNat_lt
    simp only [ByteOrder.value, List.foldl_cons, List.foldl_nil]
    omega

/-- The units of some bytes, unless these end inside a unit. -/
def unitsOf : List UInt8 → Option (List CodePoint)
  | [] => some []
  | [_] => none
  | first :: second :: rest => (unitsOf rest).map (unitOf first second :: ·)

/-- A high surrogate takes a low one right behind it as its partner; all other units are passed through,
lone surrogates too. -/
def pairUp : List CodePoint → CodePoints
  | [] => []
  | [unit] => [unit]
  | unit :: next :: rest =>
    if unit.IsHigh ∧ next.IsLow then unit.joined next :: pairUp rest
    else unit :: pairUp (next :: rest)

def decodePassing (bytes : List UInt8) : Option CodePoints :=
  (unitsOf bytes).map pairUp

/-- The two bytes of a unit, the high one first. -/
def unitBytes (unit : CodePoint) : List UInt8 :=
  [UInt8.ofNat (unit.value / 0x100), UInt8.ofNat unit.value]

theorem unitOf_unitBytes {unit : CodePoint} (small : unit.value < 0x10000) :
    unitOf (UInt8.ofNat (unit.value / 0x100)) (UInt8.ofNat unit.value) = unit := by
  apply CodePoint.ext
  simp only [unitOf, ByteOrder.value, List.foldl_cons, List.foldl_nil, UInt8.toNat_ofNat']
  omega

theorem unitsOf_flatMap_unitBytes {units : List CodePoint}
    (small : ∀ unit ∈ units, unit.value < 0x10000) :
    unitsOf (units.flatMap unitBytes) = some units := by
  induction units with
  | nil => rfl
  | cons unit rest inductionHypothesis =>
      obtain ⟨isSmall, restSmall⟩ := List.forall_mem_cons.mp small
      have read := inductionHypothesis restSmall
      show (unitsOf (rest.flatMap unitBytes)).map (unitOf _ _ :: ·) = some (unit :: rest)
      rw [read, unitOf_unitBytes isSmall]
      rfl

theorem prependJoining_of_apart {unit head : CodePoint} (apart : ¬(unit.IsHigh ∧ head.IsLow))
    (tail : CodePoints) : prependJoining unit (head :: tail) = unit :: head :: tail :=
  if_neg apart

/-- What is joined from the rest does not open with the partner of a unit that had none. -/
theorem prependJoining_joinPairs {unit next : CodePoint} (apart : ¬(unit.IsHigh ∧ next.IsLow))
    (rest : CodePoints) :
    prependJoining unit (joinPairs (next :: rest)) = unit :: joinPairs (next :: rest) := by
  rw [joinPairs_cons]
  cases joinPairs rest with
  | nil => exact prependJoining_of_apart apart []
  | cons head tail =>
      -- If the next unit was joined, it stands for a code point above all surrogates.
      by_cases pair : next.IsHigh ∧ head.IsLow
      · have notLow : ¬(next.joined head).IsLow := fun isLow => by
          have highest := isLow.2
          simp only [CodePoint.joined] at highest
          omega
        rw [prependJoining, if_pos pair]
        exact prependJoining_of_apart (fun both => notLow both.2) tail
      · rw [prependJoining_of_apart pair]
        exact prependJoining_of_apart apart (head :: tail)

theorem pairUp_eq_joinPairs (units : List CodePoint) : pairUp units = joinPairs units := by
  fun_induction pairUp units with
  | case1 => rfl
  | case2 => rfl
  | case3 unit next rest pair inductionHypothesis =>
      -- From the back, the low half meets what follows it first, and joins with none of it.
      have notHigh : ¬next.IsHigh := fun isHigh => by
        have lowest := pair.2.1
        have highest := isHigh.2
        omega
      rw [inductionHypothesis, joinPairs_cons, joinPairs_cons,
        ModifiedUtf8.prependJoining_of_not_high notHigh]
      exact (if_pos pair).symm
  | case4 unit next rest apart inductionHypothesis =>
      rw [inductionHypothesis, joinPairs_cons unit, prependJoining_joinPairs apart]

theorem decodePassing_flatMap_unitBytes {units : List CodePoint}
    (small : ∀ unit ∈ units, unit.value < 0x10000) :
    decodePassing (units.flatMap unitBytes) = some (joinPairs units) := by
  rw [decodePassing, unitsOf_flatMap_unitBytes small, Option.map_some, pairUp_eq_joinPairs]

end Utf16

namespace ModifiedUtf8

/-! ## The ways out of the decoder -/

/-- The text of some units: as they stand, or by way of UTF-16 if a surrogate is among them. -/
def textOfUnits (units : List CodePoint) : Option CodePoints :=
  if SurrogateFree units then some units
  else Utf16.decodePassing (units.flatMap Utf16.unitBytes)

theorem textOfUnits_eq {units : List CodePoint} (small : ∀ unit ∈ units, unit.value < 0x10000) :
    textOfUnits units = some (joinPairs units) := by
  unfold textOfUnits
  split
  case isTrue free => rw [joinPairs_of_surrogateFree free]
  case isFalse => exact Utf16.decodePassing_flatMap_unitBytes small

theorem small_push {units : Array CodePoint} {unit : CodePoint}
    (small : ∀ unit ∈ units, unit.value < 0x10000) (isSmall : unit.value < 0x10000) :
    ∀ other ∈ units.push unit, other.value < 0x10000 := by
  intro other member
  rcases Array.mem_push.mp member with earlier | rfl
  · exact small other earlier
  · exact isSmall

/-- No more than 16 bits are read into a unit. -/
theorem value_lt_of_mem_decodeUnits {offset : Nat} {before units : Array CodePoint}
    {bytes : List UInt8} (read : decodeUnits offset before bytes = .ok units)
    (small : ∀ unit ∈ before, unit.value < 0x10000) : ∀ unit ∈ units, unit.value < 0x10000 := by
  fun_induction decodeUnits offset before bytes with
  | case1 =>
      cases read
      exact small
  | case2 _ before first _ _ inductionHypothesis =>
      refine inductionHypothesis read (small_push small ?_)
      simp only [oneByteUnit]
      omega
  | case3 _ before first _ _ second _ inductionHypothesis =>
      refine inductionHypothesis read (small_push small ?_)
      simp only [twoByteUnit]
      omega
  | case5 _ before first _ _ _ second third _ inductionHypothesis =>
      refine inductionHypothesis read (small_push small ?_)
      simp only [threeByteUnit]
      omega
  | case4 | case6 | case7 => cases read

/-- Bytes are read if their units are, and the units then decide on the way out. -/
theorem decode_eq_ok_iff (bytes : List UInt8) (points : CodePoints) :
    decode bytes = .ok points ↔
      ∃ units, decodeUnits 0 #[] bytes = .ok units ∧ textOfUnits units.toList = some points := by
  unfold decode
  cases read : decodeUnits 0 #[] bytes with
  | error cause => simp [Except.map]
  | ok units =>
      have small : ∀ unit ∈ units.toList, unit.value < 0x10000 := fun unit member =>
        value_lt_of_mem_decodeUnits read (by simp) unit (Array.mem_toList_iff.mp member)
      simp [Except.map, textOfUnits_eq small]

/-! ## The round trip -/

/-- What becomes of an encoded text: its units are read, and the way out that they decide on gives the
text. -/
structure ReadsBack (points : CodePoints) : Prop where
  read : decodeUnits 0 #[] (encode points) = .ok (points.flatMap units).toArray
  plain : SurrogateFree (points.flatMap units) → points.flatMap units = points
  rejoined : ¬SurrogateFree (points.flatMap units) →
    Utf16.decodePassing ((points.flatMap units).flatMap Utf16.unitBytes) = some points
  decoded : decode (encode points) = .ok points

theorem readsBack_of_unpaired {points : CodePoints} (unpaired : Unpaired points) :
    ReadsBack points := by
  have small := value_lt_of_mem_flatMap_units points
  have joined : joinPairs (points.flatMap units) = points := by
    rw [joinPairs_flatMap_units, joinPairs_of_unpaired unpaired]
  exact {
    read := by
      unfold encode
      rw [decodeUnits_flatMap_encodeUnit small, Array.empty_append]
    plain := fun free => by rw [← joinPairs_of_surrogateFree free, joined]
    rejoined := fun _ => by rw [Utf16.decodePassing_flatMap_unitBytes small, joined]
    decoded := by rw [decode_encode, joinPairs_of_unpaired unpaired] }

theorem encode_injOn {first second : CodePoints} (isFirst : Unpaired first)
    (isSecond : Unpaired second) (same : encode first = encode second) : first = second := by
  have read := (readsBack_of_unpaired isFirst).decoded
  rw [same, (readsBack_of_unpaired isSecond).decoded] at read
  exact (Except.ok.inj read).symm

/-- **Modified UTF-8 can be read back.** A text in which no two surrogates make a pair is read from its
encoded form, whether the units are taken as they stand or by way of UTF-16, and no other such text has
this form. -/
theorem encode_reads_back :
    (∀ bytes points, decode bytes = .ok points ↔
      ∃ units, decodeUnits 0 #[] bytes = .ok units ∧ textOfUnits units.toList = some points) ∧
    (∀ points, Unpaired points → ReadsBack points) ∧
    (∀ text : String, decode (encode (.ofString text)) = .ok (.ofString text)) ∧
    ∀ first second, Unpaired first → Unpaired second → encode first = encode second →
      first = second := by
  refine ⟨decode_eq_ok_iff, fun _ => readsBack_of_unpaired, fun text => ?_,
    fun _ _ => encode_injOn⟩
  exact (readsBack_of_unpaired (surrogateFree_ofString text).unpaired).decoded

/-- A high surrogate before a pair, a low one behind it, the ends of all ranges, and a high surrogate at
the very end. -/
def loneSurrogates : CodePoints :=
  [⟨0xD83D, by decide⟩, ⟨0x1F600, by decide⟩, ⟨0xDE00, by decide⟩, ⟨0, by decide⟩,
    ⟨0x7F, by decide⟩, ⟨0x80, by decide⟩, ⟨0x7FF, by decide⟩, ⟨0x800, by decide⟩,
    ⟨0xFFFF, by decide⟩, ⟨0x10000, by decide⟩, ⟨0xD800, by decide⟩]

theorem encode_reads_back_loneSurrogates :
    Unpaired loneSurrogates ∧ ReadsBack loneSurrogates ∧
      encode loneSurrogates =
        [0xED, 0xA0, 0xBD, 0xED, 0xA0, 0xBD, 0xED, 0xB8, 0x80, 0xED, 0xB8, 0x80, 0xC0, 0x80, 0x7F,
          0xC2, 0x80, 0xDF, 0xBF, 0xE0, 0xA0, 0x80, 0xEF, 0xBF, 0xBF, 0xED, 0xA0, 0x80, 0xED, 0xB0,
          0x80, 0xED, 0xA0, 0x80] :=
  ⟨by decide, encode_reads_back.2.1 loneSurrogates (by decide), by decide⟩

end ModifiedUtf8

end SurfaceDiff.Text
