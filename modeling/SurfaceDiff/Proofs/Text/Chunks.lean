import Mathlib.Order.Bounds.Defs
import SurfaceDiff.Proofs.Text.Rejoining

/-!
Contract: which byte strings are modified UTF-8, which text each of them is, and where reading any other
one ends.

Owns: `Chunk`, the bytes of one unit; that chunks are a prefix code, so that bytes fall into chunks in
one way at most; `PairsJoined`, the text of some units said without a decoder; and the theorem that
`decode` accepts the concatenations of chunks, and gives the end of the longest one for all other bytes.
Does not own: how bytes are written for a text.
-/

namespace SurfaceDiff.Text.ModifiedUtf8

/-- The bytes of one unit. The first one says how many follow, and these can be any. -/
inductive Chunk where
  | one (first : UInt8) (lead : first < 0x80)
  | two (first second : UInt8) (lead : 0xC0 ≤ first ∧ first < 0xE0)
  | three (first second third : UInt8) (lead : 0xE0 ≤ first ∧ first < 0xF0)

namespace Chunk

def bytes : Chunk → List UInt8
  | one first _ => [first]
  | two first second _ => [first, second]
  | three first second third _ => [first, second, third]

/-- The low bits of the bytes behind one another: five and six, or four, six and six. -/
def bits : Chunk → BitVec 16
  | one first _ => first.toBitVec.setWidth 16
  | two first second _ => (first.toBitVec.setWidth 5 ++ second.toBitVec.setWidth 6).setWidth 16
  | three first second third _ =>
    first.toBitVec.setWidth 4 ++ second.toBitVec.setWidth 6 ++ third.toBitVec.setWidth 6

def unit (chunk : Chunk) : CodePoint where
  value := chunk.bits.toNat
  value_le := by
    have bound := chunk.bits.isLt
    omega

/-! ## Values -/

theorem toNat_append_six {width : Nat} (high : BitVec width) (low : BitVec 6) :
    (high ++ low).toNat = high.toNat * 0x40 + low.toNat := by
  rw [BitVec.toNat_append, ← Nat.shiftLeft_add_eq_or_of_lt low.isLt, Nat.shiftLeft_eq]

theorem unit_one {first : UInt8} (lead : first < 0x80) : (one first lead).unit = oneByteUnit first := by
  rw [UInt8.lt_iff_toNat_lt] at lead
  apply CodePoint.ext
  simp only [unit, bits, oneByteUnit, BitVec.toNat_setWidth, UInt8.toNat_toBitVec,
    UInt8.reduceToNat] at lead ⊢
  omega

theorem unit_two {first second : UInt8} (lead : 0xC0 ≤ first ∧ first < 0xE0) :
    (two first second lead).unit = twoByteUnit first second := by
  apply CodePoint.ext
  simp only [unit, bits, twoByteUnit, BitVec.toNat_setWidth, toNat_append_six, UInt8.toNat_toBitVec]
  omega

theorem unit_three {first second third : UInt8} (lead : 0xE0 ≤ first ∧ first < 0xF0) :
    (three first second third lead).unit = threeByteUnit first second third := by
  apply CodePoint.ext
  simp only [unit, bits, threeByteUnit, BitVec.toNat_setWidth, toNat_append_six, UInt8.toNat_toBitVec]
  omega

/-! ## Chunks as a prefix code -/

theorem bytes_ne_nil (chunk : Chunk) : chunk.bytes ≠ [] := by
  cases chunk <;> exact List.cons_ne_nil _ _

/-- How many bytes a chunk takes is seen from its first one. -/
def width (first : UInt8) : Nat :=
  if first < 0x80 then 1 else if first < 0xE0 then 2 else 3

theorem map_width_head? (chunk : Chunk) (rest : List UInt8) :
    (chunk.bytes ++ rest).head?.map width = some chunk.bytes.length := by
  cases chunk with
  | one first lead => simp [bytes, width, lead]
  | two first second lead =>
      have notOne : ¬first < 0x80 := UInt8.not_lt.mpr (UInt8.le_trans (by decide) lead.1)
      simp [bytes, width, notOne, lead.2]
  | three first second third lead =>
      have notOne : ¬first < 0x80 := UInt8.not_lt.mpr (UInt8.le_trans (by decide) lead.1)
      have notTwo : ¬first < 0xE0 := UInt8.not_lt.mpr lead.1
      simp [bytes, width, notOne, notTwo]

theorem bytes_injective : Function.Injective bytes := by
  intro chunk other same
  cases chunk <;> cases other <;> simp_all [bytes]

/-- No chunk is the start of another one, so what follows a chunk is determined too. -/
theorem bytes_append_inj {chunk other : Chunk} {rest remainder : List UInt8}
    (same : chunk.bytes ++ rest = other.bytes ++ remainder) : chunk = other ∧ rest = remainder := by
  have sameLength : chunk.bytes.length = other.bytes.length := by
    rw [← Option.some_inj, ← map_width_head? chunk rest, same, map_width_head?]
  obtain ⟨sameBytes, sameRest⟩ := List.append_inj same sameLength
  exact ⟨bytes_injective sameBytes, sameRest⟩

end Chunk

theorem flatMap_bytes_injective :
    Function.Injective fun chunks : List Chunk => chunks.flatMap Chunk.bytes := by
  intro chunks others same
  induction chunks generalizing others with
  | nil =>
      cases others with
      | nil => rfl
      | cons other others =>
          exact absurd (List.append_eq_nil_iff.mp same.symm).1 other.bytes_ne_nil
  | cons chunk chunks inductionHypothesis =>
      cases others with
      | nil => exact absurd (List.append_eq_nil_iff.mp same).1 chunk.bytes_ne_nil
      | cons other others =>
          obtain ⟨rfl, sameRest⟩ := Chunk.bytes_append_inj same
          rw [inductionHypothesis sameRest]

/-! ## The longest start in chunks -/

/-- The bytes are a concatenation of chunks. -/
def IsChunked (bytes : List UInt8) : Prop :=
  ∃ chunks : List Chunk, chunks.flatMap Chunk.bytes = bytes

/-- No chunk stands at the front. -/
def Stuck (bytes : List UInt8) : Prop :=
  ∀ chunk : Chunk, ¬chunk.bytes <+: bytes

theorem exists_chunks_append_stuck (bytes : List UInt8) :
    ∃ (chunks : List Chunk) (rest : List UInt8),
      chunks.flatMap Chunk.bytes ++ rest = bytes ∧ Stuck rest := by
  -- On the length: a chunk takes one byte at least.
  induction lengthOf : bytes.length using Nat.strong_induction_on generalizing bytes with
  | _ length inductionHypothesis =>
      by_cases stuck : Stuck bytes
      · exact ⟨[], bytes, rfl, stuck⟩
      · unfold Stuck at stuck
        push Not at stuck
        obtain ⟨chunk, rest, rfl⟩ := stuck
        have shorter : rest.length < length := by
          have taken := List.length_pos_iff.mpr chunk.bytes_ne_nil
          rw [← lengthOf, List.length_append]
          omega
        obtain ⟨chunks, remainder, rfl, stuck⟩ := inductionHypothesis rest.length shorter rest rfl
        exact ⟨chunk :: chunks, remainder, List.append_assoc _ _ _, stuck⟩

/-- Chunks at the front of some bytes are chunk by chunk those that end where no further one stands. -/
theorem flatMap_bytes_isPrefix {chunks others : List Chunk} {rest : List UInt8} (stuck : Stuck rest)
    (inFront : others.flatMap Chunk.bytes <+: chunks.flatMap Chunk.bytes ++ rest) :
    others.flatMap Chunk.bytes <+: chunks.flatMap Chunk.bytes := by
  induction others generalizing chunks with
  | nil => exact List.nil_prefix
  | cons other others inductionHypothesis =>
      obtain ⟨after, inFront⟩ := inFront
      rw [List.flatMap_cons, List.append_assoc] at inFront
      cases chunks with
      -- A chunk more would stand where none does.
      | nil => exact absurd ⟨_, inFront⟩ (stuck other)
      | cons chunk chunks =>
          rw [List.flatMap_cons, List.append_assoc] at inFront
          obtain ⟨rfl, sameRest⟩ := Chunk.bytes_append_inj inFront
          exact (List.prefix_append_right_inj _).mpr (inductionHypothesis ⟨after, sameRest⟩)

/-- The lengths of the starts that are concatenations of chunks. -/
def chunkedLengths (bytes : List UInt8) : Set Nat :=
  {length | length ≤ bytes.length ∧ IsChunked (bytes.take length)}

theorem isGreatest_chunkedLengths (chunks : List Chunk) {rest : List UInt8} (stuck : Stuck rest) :
    IsGreatest (chunkedLengths (chunks.flatMap Chunk.bytes ++ rest))
      (chunks.flatMap Chunk.bytes).length := by
  constructor
  · refine ⟨?_, chunks, List.take_left.symm⟩
    rw [List.length_append]
    omega
  · rintro length ⟨inside, others, isStart⟩
    have inFront : others.flatMap Chunk.bytes <+: chunks.flatMap Chunk.bytes ++ rest := by
      rw [isStart]
      exact List.take_prefix _ _
    have shorter := (flatMap_bytes_isPrefix stuck inFront).length_le
    rwa [isStart, List.length_take, Nat.min_eq_left inside] at shorter

/-! ## Reading chunks -/

theorem decodeUnits_bytes_append (chunk : Chunk) (offset : Nat) (before : Array CodePoint)
    (rest : List UInt8) :
    decodeUnits offset before (chunk.bytes ++ rest) =
      decodeUnits (offset + chunk.bytes.length) (before.push chunk.unit) rest := by
  cases chunk with
  | one first lead =>
      rw [Chunk.unit_one]
      exact decodeUnits_one lead offset before rest
  | two first second lead =>
      rw [Chunk.unit_two]
      exact decodeUnits_two lead second offset before rest
  | three first second third lead =>
      rw [Chunk.unit_three]
      exact decodeUnits_three lead second third offset before rest

theorem decodeUnits_flatMap_bytes_append (chunks : List Chunk) (offset : Nat)
    (before : Array CodePoint) (rest : List UInt8) :
    decodeUnits offset before (chunks.flatMap Chunk.bytes ++ rest) =
      decodeUnits (offset + (chunks.flatMap Chunk.bytes).length)
        (before ++ (chunks.map Chunk.unit).toArray) rest := by
  induction chunks generalizing offset before with
  | nil => simp
  | cons chunk chunks inductionHypothesis =>
      rw [List.flatMap_cons, List.append_assoc, decodeUnits_bytes_append, inductionHypothesis,
        List.length_append, Nat.add_assoc]
      simp

/-- Where no chunk stands, each way to read a unit lacks a byte or is closed to the first one. -/
theorem decodeUnits_stuck {first : UInt8} {rest : List UInt8} (stuck : Stuck (first :: rest))
    (offset : Nat) (before : Array CodePoint) :
    decodeUnits offset before (first :: rest) = .error ⟨first, offset⟩ := by
  have notOne : ¬first < 0x80 := fun lead => stuck (.one first lead) ⟨rest, rfl⟩
  rw [decodeUnits.eq_def]
  dsimp only
  rw [if_neg notOne]
  split
  case isTrue lead =>
    cases rest with
    | nil => rfl
    | cons second rest => exact absurd ⟨rest, rfl⟩ (stuck (.two first second lead))
  case isFalse =>
    split
    case isTrue lead =>
      cases rest with
      | nil => rfl
      | cons second rest =>
          cases rest with
          | nil => rfl
          | cons third rest => exact absurd ⟨rest, rfl⟩ (stuck (.three first second third lead))
    case isFalse => rfl

theorem decodeUnits_of_chunks (chunks : List Chunk) :
    decodeUnits 0 #[] (chunks.flatMap Chunk.bytes) = .ok (chunks.map Chunk.unit).toArray := by
  have run := decodeUnits_flatMap_bytes_append chunks 0 #[] []
  rw [List.append_nil, Array.empty_append] at run
  rw [run]
  rfl

theorem decode_of_chunks (chunks : List Chunk) :
    decode (chunks.flatMap Chunk.bytes) = .ok (CodePoints.joinPairs (chunks.map Chunk.unit)) := by
  rw [decode, decodeUnits_of_chunks]
  rfl

theorem decode_of_stuck (chunks : List Chunk) {first : UInt8} {rest : List UInt8}
    (stuck : Stuck (first :: rest)) :
    decode (chunks.flatMap Chunk.bytes ++ first :: rest) =
      .error ⟨first, (chunks.flatMap Chunk.bytes).length⟩ := by
  rw [decode, decodeUnits_flatMap_bytes_append, decodeUnits_stuck stuck, Nat.zero_add]
  rfl

/-! ## The text of some units -/

/-- Each high surrogate with a low one right behind it stands for the supplementary code point that the
two encode, and every other unit for itself. -/
inductive PairsJoined : List CodePoint → CodePoints → Prop where
  | nil : PairsJoined [] []
  | pair {high low supplementary : CodePoint} {units : List CodePoint} {points : CodePoints}
      (isHigh : high.IsHigh) (isLow : low.IsLow)
      (encoded : supplementary.value =
        0x10000 + (high.value - 0xD800) * 0x400 + (low.value - 0xDC00))
      (rest : PairsJoined units points) :
      PairsJoined (high :: low :: units) (supplementary :: points)
  | alone {unit : CodePoint} {units : List CodePoint} {points : CodePoints}
      (apart : ∀ next ∈ units.head?, ¬(unit.IsHigh ∧ next.IsLow)) (rest : PairsJoined units points) :
      PairsJoined (unit :: units) (unit :: points)

theorem joined_value {high low : CodePoint} (isHigh : high.IsHigh) (isLow : low.IsLow) :
    (high.joined low).value = 0x10000 + (high.value - 0xD800) * 0x400 + (low.value - 0xDC00) := by
  unfold CodePoint.IsHigh at isHigh
  unfold CodePoint.IsLow at isLow
  simp only [CodePoint.joined]
  omega

theorem pairsJoined_pairUp (units : List CodePoint) : PairsJoined units (Utf16.pairUp units) := by
  fun_induction Utf16.pairUp units with
  | case1 => exact .nil
  | case2 unit => exact .alone (by simp) .nil
  | case3 unit next rest pair inductionHypothesis =>
      exact .pair pair.1 pair.2 (joined_value pair.1 pair.2) inductionHypothesis
  | case4 unit next rest apart inductionHypothesis =>
      exact .alone (by simpa using apart) inductionHypothesis

theorem PairsJoined.eq_pairUp {units : List CodePoint} {points : CodePoints}
    (joined : PairsJoined units points) : points = Utf16.pairUp units := by
  induction joined with
  | nil => rfl
  | @pair high low supplementary units points isHigh isLow encoded rest inductionHypothesis =>
      have same : supplementary = high.joined low :=
        CodePoint.ext (encoded.trans (joined_value isHigh isLow).symm)
      rw [Utf16.pairUp, if_pos ⟨isHigh, isLow⟩, same, inductionHypothesis]
  | @alone unit units points apart rest inductionHypothesis =>
      cases units with
      | nil =>
          rw [inductionHypothesis]
          rfl
      | cons next units => rw [Utf16.pairUp, if_neg (apart next rfl), inductionHypothesis]

theorem pairsJoined_iff (units : List CodePoint) (points : CodePoints) :
    PairsJoined units points ↔ points = CodePoints.joinPairs units := by
  rw [← Utf16.pairUp_eq_joinPairs]
  constructor
  · exact PairsJoined.eq_pairUp
  · rintro rfl
    exact pairsJoined_pairUp units

/-! ## The whole law -/

/-- What becomes of some bytes when they are read. -/
structure Reads (bytes : List UInt8) : Prop where
  accepted_iff : (∃ points, decode bytes = .ok points) ↔ IsChunked bytes
  unique : ∀ chunks others : List Chunk, chunks.flatMap Chunk.bytes = bytes →
    others.flatMap Chunk.bytes = bytes → chunks = others
  text_iff : ∀ points, decode bytes = .ok points ↔ ∃ chunks : List Chunk,
    chunks.flatMap Chunk.bytes = bytes ∧ PairsJoined (chunks.map Chunk.unit) points
  refused : ¬IsChunked bytes → ∃ byte offset, decode bytes = .error ⟨byte, offset⟩ ∧
    IsGreatest (chunkedLengths bytes) offset ∧ bytes[offset]? = some byte
  /-- Every unit fits in two bytes, and joining pairs by way of UTF-16 does not fail. -/
  way_out : ∀ units, decodeUnits 0 #[] bytes = .ok units →
    (∀ unit ∈ units, unit.value < 0x10000) ∧
      ∃ points, textOfUnits units.toList = some points ∧ decode bytes = .ok points

theorem decode_eq_ok_iff_exists_chunks (bytes : List UInt8) (points : CodePoints) :
    decode bytes = .ok points ↔ ∃ chunks : List Chunk,
      chunks.flatMap Chunk.bytes = bytes ∧ PairsJoined (chunks.map Chunk.unit) points := by
  constructor
  · intro read
    obtain ⟨chunks, rest, rfl, stuck⟩ := exists_chunks_append_stuck bytes
    cases rest with
    | nil =>
        rw [List.append_nil, decode_of_chunks] at read
        exact ⟨chunks, (List.append_nil _).symm, (pairsJoined_iff _ _).mpr (Except.ok.inj read).symm⟩
    | cons first rest =>
        rw [decode_of_stuck chunks stuck] at read
        cases read
  · rintro ⟨chunks, rfl, joined⟩
    rw [decode_of_chunks, (pairsJoined_iff _ _).mp joined]

theorem exists_decode_eq_ok_iff (bytes : List UInt8) :
    (∃ points, decode bytes = .ok points) ↔ IsChunked bytes := by
  constructor
  · rintro ⟨points, read⟩
    obtain ⟨chunks, isBytes, _⟩ := (decode_eq_ok_iff_exists_chunks bytes points).mp read
    exact ⟨chunks, isBytes⟩
  · rintro ⟨chunks, rfl⟩
    exact ⟨_, decode_of_chunks chunks⟩

theorem exists_decode_eq_error {bytes : List UInt8} (notChunked : ¬IsChunked bytes) :
    ∃ byte offset, decode bytes = .error ⟨byte, offset⟩ ∧
      IsGreatest (chunkedLengths bytes) offset ∧ bytes[offset]? = some byte := by
  obtain ⟨chunks, rest, rfl, stuck⟩ := exists_chunks_append_stuck bytes
  cases rest with
  | nil => exact absurd ⟨chunks, (List.append_nil _).symm⟩ notChunked
  | cons first rest =>
      exact ⟨first, _, decode_of_stuck chunks stuck, isGreatest_chunkedLengths chunks stuck, by simp⟩

/-- **Which bytes are modified UTF-8.** Bytes are read exactly if they fall into chunks, which they do in
one way only, and the text is that of the units of the chunks. All other bytes are refused at the end of
their longest start that falls into chunks, with the byte that stands there, and in no other way. -/
theorem decode_recognizes (bytes : List UInt8) : Reads bytes where
  accepted_iff := exists_decode_eq_ok_iff bytes
  unique := fun _ _ isFirst isSecond => flatMap_bytes_injective (isFirst.trans isSecond.symm)
  text_iff := decode_eq_ok_iff_exists_chunks bytes
  refused := exists_decode_eq_error
  way_out := by
    intro units read
    have small := value_lt_of_mem_decodeUnits read (by simp)
    have text : textOfUnits units.toList = some (CodePoints.joinPairs units.toList) :=
      textOfUnits_eq fun unit member => small unit (Array.mem_toList_iff.mp member)
    exact ⟨small, _, text, (decode_eq_ok_iff bytes _).mpr ⟨units, read, text⟩⟩

/-- The last unit lacks a byte. -/
example : decode [0x61, 0xC0, 0x80, 0xE2, 0x82] = .error ⟨0xE2, 3⟩ := by
  rfl

end SurfaceDiff.Text.ModifiedUtf8
