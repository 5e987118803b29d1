import SurfaceDiff.Proofs.Text.Surrogates
import SurfaceDiff.Text.ModifiedUtf8

/-!
Contract: writing texts in modified UTF-8, and what reading them back gives.

Owns: `encode`, and that decoding an encoded text gives the text with its pairs joined.
Does not own: the decoding of byte strings that no text is written as.
-/

namespace SurfaceDiff.Text.ModifiedUtf8

open CodePoints

/-! ## Encoding -/

/-- The surrogate that stands first for a supplementary code point. -/
def highHalf (point : CodePoint) : CodePoint where
  value := 0xD800 + (point.value - 0x10000) / 0x400
  value_le := by
    have bound := point.value_le
    omega

def lowHalf (point : CodePoint) : CodePoint where
  value := 0xDC00 + point.value % 0x400
  value_le := by omega

/-- The 16-bit units of a code point: itself, or its surrogate pair. -/
def units (point : CodePoint) : List CodePoint :=
  if point.value < 0x10000 then [point] else [highHalf point, lowHalf point]

/-- NUL takes two bytes, so that no encoded text holds a zero byte. -/
def encodeUnit (unit : CodePoint) : List UInt8 :=
  if 0 < unit.value ∧ unit.value < 0x80 then
    [UInt8.ofNat unit.value]
  else if unit.value < 0x800 then
    [UInt8.ofNat (0xC0 + unit.value / 0x40), UInt8.ofNat (0x80 + unit.value % 0x40)]
  else
    [UInt8.ofNat (0xE0 + unit.value / 0x1000), UInt8.ofNat (0x80 + unit.value / 0x40 % 0x40),
      UInt8.ofNat (0x80 + unit.value % 0x40)]

def encode (points : CodePoints) : List UInt8 :=
  (points.flatMap units).flatMap encodeUnit

/-! ## Units -/

theorem value_lt_of_mem_units {point unit : CodePoint} (isUnit : unit ∈ units point) :
    unit.value < 0x10000 := by
  have bound := point.value_le
  unfold units at isUnit
  split at isUnit
  case isTrue small =>
    rw [List.mem_singleton] at isUnit
    exact isUnit ▸ small
  case isFalse =>
    simp only [List.mem_cons, List.not_mem_nil, or_false] at isUnit
    rcases isUnit with rfl | rfl
    · simp only [highHalf]
      omega
    · simp only [lowHalf]
      omega

theorem value_lt_of_mem_flatMap_units (points : CodePoints) :
    ∀ unit ∈ points.flatMap units, unit.value < 0x10000 := by
  intro unit isUnit
  obtain ⟨point, _, isUnit⟩ := List.mem_flatMap.mp isUnit
  exact value_lt_of_mem_units isUnit

theorem prependJoining_of_not_high {point : CodePoint} (notHigh : ¬point.IsHigh)
    (points : CodePoints) : prependJoining point points = point :: points := by
  cases points with
  | nil => rfl
  | cons next rest => exact if_neg fun pair => notHigh pair.1

/-- The two halves of a supplementary code point are joined to it again. -/
theorem foldr_units (point : CodePoint) (points : CodePoints) :
    (units point).foldr prependJoining points = prependJoining point points := by
  have bound := point.value_le
  unfold units
  split
  case isTrue => rfl
  case isFalse large =>
    have notHigh : ¬point.IsHigh := fun isHigh => by
      have highest := isHigh.2
      omega
    have lowNotHigh : ¬(lowHalf point).IsHigh := fun isHigh => by
      have highest := isHigh.2
      simp only [lowHalf] at highest
      omega
    have pair : (highHalf point).IsHigh ∧ (lowHalf point).IsLow := by
      simp only [CodePoint.IsHigh, CodePoint.IsLow, highHalf, lowHalf]
      omega
    have joined : (highHalf point).joined (lowHalf point) = point := by
      apply CodePoint.ext
      simp only [CodePoint.joined, highHalf, lowHalf]
      omega
    rw [List.foldr_cons, List.foldr_cons, List.foldr_nil, prependJoining_of_not_high lowNotHigh,
      prependJoining_of_not_high notHigh]
    exact (if_pos pair).trans (by rw [joined])

theorem joinPairs_flatMap_units (points : CodePoints) :
    joinPairs (points.flatMap units) = joinPairs points := by
  induction points with
  | nil => rfl
  | cons point rest inductionHypothesis =>
      rw [joinPairs_cons, ← inductionHypothesis, ← foldr_units, List.flatMap_cons]
      unfold joinPairs
      rw [List.foldr_append]

/-! ## Decoding -/

theorem decodeUnits_one {first : UInt8} (lead : first < 0x80) (offset : Nat)
    (before : Array CodePoint) (rest : List UInt8) :
    decodeUnits offset before (first :: rest) =
      decodeUnits (offset + 1) (before.push (oneByteUnit first)) rest := by
  rw [decodeUnits.eq_def]
  exact if_pos lead

theorem decodeUnits_two {first : UInt8} (lead : 0xC0 ≤ first ∧ first < 0xE0) (second : UInt8)
    (offset : Nat) (before : Array CodePoint) (rest : List UInt8) :
    decodeUnits offset before (first :: second :: rest) =
      decodeUnits (offset + 2) (before.push (twoByteUnit first second)) rest := by
  have notOne : ¬first < 0x80 := by
    rw [UInt8.not_lt]
    exact UInt8.le_trans (by decide) lead.1
  rw [decodeUnits.eq_def]
  exact (if_neg notOne).trans (if_pos lead)

theorem decodeUnits_three {first : UInt8} (lead : 0xE0 ≤ first ∧ first < 0xF0)
    (second third : UInt8) (offset : Nat) (before : Array CodePoint) (rest : List UInt8) :
    decodeUnits offset before (first :: second :: third :: rest) =
      decodeUnits (offset + 3) (before.push (threeByteUnit first second third)) rest := by
  have notOne : ¬first < 0x80 := by
    rw [UInt8.not_lt]
    exact UInt8.le_trans (by decide) lead.1
  have notTwo : ¬(0xC0 ≤ first ∧ first < 0xE0) := fun two => UInt8.not_lt.mpr lead.1 two.2
  rw [decodeUnits.eq_def]
  exact (if_neg notOne).trans ((if_neg notTwo).trans (if_pos lead))

theorem decodeUnits_encodeUnit_append {unit : CodePoint} (small : unit.value < 0x10000)
    (offset : Nat) (before : Array CodePoint) (rest : List UInt8) :
    decodeUnits offset before (encodeUnit unit ++ rest) =
      decodeUnits (offset + (encodeUnit unit).length) (before.push unit) rest := by
  unfold encodeUnit
  split_ifs with single double
  · have lead : UInt8.ofNat unit.value < 0x80 := by
      rw [UInt8.lt_iff_toNat_lt, UInt8.toNat_ofNat']
      exact Nat.lt_of_le_of_lt (Nat.mod_le _ _) single.2
    have same : oneByteUnit (UInt8.ofNat unit.value) = unit := by
      apply CodePoint.ext
      simp only [oneByteUnit, UInt8.toNat_ofNat']
      omega
    exact (decodeUnits_one lead offset before rest).trans (by rw [same]; rfl)
  · have lead : 0xC0 ≤ UInt8.ofNat (0xC0 + unit.value / 0x40) ∧
        UInt8.ofNat (0xC0 + unit.value / 0x40) < 0xE0 := by
      rw [UInt8.le_iff_toNat_le, UInt8.lt_iff_toNat_lt, UInt8.toNat_ofNat']
      simp only [UInt8.reduceToNat]
      omega
    have same : twoByteUnit (UInt8.ofNat (0xC0 + unit.value / 0x40))
        (UInt8.ofNat (0x80 + unit.value % 0x40)) = unit := by
      apply CodePoint.ext
      simp only [twoByteUnit, UInt8.toNat_ofNat']
      omega
    exact (decodeUnits_two lead _ offset before rest).trans (by rw [same]; rfl)
  · have lead : 0xE0 ≤ UInt8.ofNat (0xE0 + unit.value / 0x1000) ∧
        UInt8.ofNat (0xE0 + unit.value / 0x1000) < 0xF0 := by
      rw [UInt8.le_iff_toNat_le, UInt8.lt_iff_toNat_lt, UInt8.toNat_ofNat']
      simp only [UInt8.reduceToNat]
      omega
    have same : threeByteUnit (UInt8.ofNat (0xE0 + unit.value / 0x1000))
        (UInt8.ofNat (0x80 + unit.value / 0x40 % 0x40)) (UInt8.ofNat (0x80 + unit.value % 0x40)) =
        unit := by
      apply CodePoint.ext
      simp only [threeByteUnit, UInt8.toNat_ofNat']
      omega
    exact (decodeUnits_three lead _ _ offset before rest).trans (by rw [same]; rfl)

theorem decodeUnits_flatMap_encodeUnit {text : List CodePoint}
    (small : ∀ unit ∈ text, unit.value < 0x10000) (offset : Nat) (before : Array CodePoint) :
    decodeUnits offset before (text.flatMap encodeUnit) = .ok (before ++ text.toArray) := by
  induction text generalizing offset before with
  | nil => simp [decodeUnits]
  | cons unit rest inductionHypothesis =>
      obtain ⟨isSmall, small⟩ := List.forall_mem_cons.mp small
      rw [List.flatMap_cons, decodeUnits_encodeUnit_append isSmall, inductionHypothesis small]
      simp

/-- An encoded text can always be read; what was a pair of surrogates is one code point then. -/
theorem decode_encode (points : CodePoints) : decode (encode points) = .ok (joinPairs points) := by
  unfold decode encode
  rw [decodeUnits_flatMap_encodeUnit (value_lt_of_mem_flatMap_units points), ← joinPairs_flatMap_units points]
  simp [Except.map]

end SurfaceDiff.Text.ModifiedUtf8
