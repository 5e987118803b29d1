import SurfaceDiff.Proofs.Report.JsonReader
import SurfaceDiff.Proofs.Text.ModifiedUtf8
import SurfaceDiff.Report.Json

/-!
Contract: strings of JSON, as they are written and as they are read.

Owns: that a written string is printable ASCII, and that reading it gives the text with its pairs
joined, whatever stands behind it.
Does not own: the other values.

A code point is written by its UTF-16 units, one escape for each. So everything is said of a single
unit first, and a text is the string of its units.
-/

namespace SurfaceDiff.Report.Json

open Text Text.ModifiedUtf8

/-! ## Hexadecimal digits -/

theorem hexValue?_hexDigit {value : Nat} (small : value < 16) :
    hexValue? (hexDigit value) = some value := by
  have all : ∀ digit : Fin 16, hexValue? (hexDigit digit) = some digit.val := by decide
  exact all ⟨value, small⟩

theorem escapeUnit_eq (value : Nat) :
    escapeUnit value = ['\\', 'u', hexDigit (value / 0x1000 % 16), hexDigit (value / 0x100 % 16),
      hexDigit (value / 0x10 % 16), hexDigit (value % 16)] := by
  simp [escapeUnit, hexDigits, Nat.shiftRight_eq_div_pow]

theorem readPoint_escapeUnit {unit : CodePoint} (small : unit.value < 0x10000) (rest : List Char) :
    readPoint (escapeUnit unit.value ++ rest) = some (unit, rest) := by
  have digits : ((unit.value / 0x1000 % 16 * 16 + unit.value / 0x100 % 16) * 16 +
      unit.value / 0x10 % 16) * 16 + unit.value % 16 = unit.value := by
    omega
  have isPoint : pointOf? unit.value = some unit := dif_pos unit.value_le
  rw [escapeUnit_eq]
  simp [readPoint, hexValue?_hexDigit (Nat.mod_lt _ _), digits, isPoint]

/-! ## One unit -/

/-- A printable character of ASCII; blanks are, line breaks are not. -/
def IsPlain (character : Char) : Prop :=
  ' ' ≤ character ∧ character ≤ '~'

instance (character : Char) : Decidable (IsPlain character) := by
  unfold IsPlain
  infer_instance

/-- The three forms in which a unit is written. -/
inductive EscapedAs : CodePoint → List Char → Prop where
  | letter {letter character : Char} (notDigits : letter ≠ 'u') (isPlain : IsPlain letter)
      (isEscape : letterEscapes.lookup letter = some character) :
      EscapedAs (.ofChar character) ['\\', letter]
  | plain {character : Char} (notQuote : character ≠ '"') (notBackslash : character ≠ '\\')
      (isPlain : IsPlain character) : EscapedAs (.ofChar character) [character]
  | digits {unit : CodePoint} (small : unit.value < 0x10000) :
      EscapedAs unit (escapeUnit unit.value)

theorem escapedAs_escapeCharacter {character : Char} (small : character.toNat < 0x10000) :
    EscapedAs (.ofChar character) (escapeCharacter character) := by
  have letter {letter other : Char} (same : character = other) (notDigits : letter ≠ 'u')
      (isPlain : IsPlain letter) (isEscape : letterEscapes.lookup letter = some other) :
      EscapedAs (.ofChar character) ['\\', letter] :=
    .letter notDigits isPlain (same ▸ isEscape)
  unfold escapeCharacter
  split_ifs with isQuote isBackslash isNewline isReturn isTab isBackspace isFormFeed isPlain
  · exact letter isQuote (by decide) (by decide) rfl
  · exact letter isBackslash (by decide) (by decide) rfl
  · exact letter isNewline (by decide) (by decide) rfl
  · exact letter isReturn (by decide) (by decide) rfl
  · exact letter isTab (by decide) (by decide) rfl
  · exact letter isBackspace (by decide) (by decide) rfl
  · exact letter isFormFeed (by decide) (by decide) rfl
  · exact .plain isQuote isBackslash isPlain
  · unfold escapeByUnits
    rw [if_pos small]
    have isUnit : (CodePoint.ofChar character).value < 0x10000 := small
    exact .digits isUnit

theorem escapedAs_escape {unit : CodePoint} (small : unit.value < 0x10000) :
    EscapedAs unit (escape unit) := by
  unfold escape
  cases converted : unit.toChar? with
  | none => exact .digits small
  | some character =>
      obtain rfl := (CodePoint.toChar?_eq_some_iff unit character).mp converted
      exact escapedAs_escapeCharacter small

theorem EscapedAs.readPoint_append {unit : CodePoint} {written : List Char}
    (escaped : EscapedAs unit written) (rest : List Char) :
    readPoint (written ++ rest) = some (unit, rest) := by
  cases escaped with
  | letter notDigits isPlain isEscape => simp [readPoint, notDigits, isEscape]
  | plain notQuote notBackslash isPlain =>
      have notControl := Char.not_lt.mpr isPlain.1
      simp [readPoint, notQuote, notBackslash, notControl]
  | digits small => exact readPoint_escapeUnit small rest

/-! ## Supplementary code points -/

theorem escape_of_surrogate {point : CodePoint} (isSurrogate : point.IsSurrogate) :
    escape point = escapeUnit point.value := by
  unfold escape
  rw [(CodePoint.toChar?_eq_none_iff point).mpr isSurrogate]

theorem escapeCharacter_of_large {character : Char} (large : 0x10000 ≤ character.toNat) :
    escapeCharacter character = escapeByUnits character.toNat := by
  have differs (other : Char) (small : other.toNat < 0x10000) : character ≠ other := by
    rintro rfl
    omega
  have notPlain : ¬(' ' ≤ character ∧ character ≤ '~') := fun plain => by
    have highest : character.toNat ≤ '~'.toNat := plain.2
    have isSmall : '~'.toNat < 0x10000 := by decide
    omega
  unfold escapeCharacter
  rw [if_neg (differs _ (by decide)), if_neg (differs _ (by decide)),
    if_neg (differs _ (by decide)), if_neg (differs _ (by decide)), if_neg (differs _ (by decide)),
    if_neg (differs _ (by decide)), if_neg (differs _ (by decide)), if_neg notPlain]

theorem escape_of_large {point : CodePoint} (large : ¬point.value < 0x10000) :
    escape point = escapeByUnits point.value := by
  have bound := point.value_le
  have valid : point.value.isValidChar := by
    unfold Nat.isValidChar
    omega
  have isLarge : 0x10000 ≤ (Char.ofNatAux point.value valid).toNat := Nat.not_lt.mp large
  unfold escape
  rw [CodePoint.toChar?_of_valid valid]
  exact escapeCharacter_of_large isLarge

/-- A supplementary code point is written as its two surrogates would be. -/
theorem escape_eq_units (point : CodePoint) : escape point = (units point).flatMap escape := by
  unfold units
  split
  case isTrue => simp
  case isFalse large =>
    have bound := point.value_le
    have high : (highHalf point).IsSurrogate := by
      simp only [CodePoint.IsSurrogate, highHalf]
      omega
    have low : (lowHalf point).IsSurrogate := by
      simp only [CodePoint.IsSurrogate, lowHalf]
      omega
    have lowBits : (point.value - 0x10000) % 0x400 = point.value % 0x400 := by
      omega
    rw [escape_of_large large, escapeByUnits, if_neg large, lowBits, List.flatMap_cons,
      List.flatMap_cons, List.flatMap_nil, List.append_nil, escape_of_surrogate high,
      escape_of_surrogate low]
    rfl

/-! ## Texts -/

theorem length_le_flatMap_escape {text : CodePoints}
    (small : ∀ unit ∈ text, unit.value < 0x10000) :
    text.length ≤ (text.flatMap escape).length := by
  induction text with
  | nil => exact Nat.le_refl 0
  | cons unit units inductionHypothesis =>
      obtain ⟨isSmall, small⟩ := List.forall_mem_cons.mp small
      have nonempty : escape unit ≠ [] := fun empty => by
        have isPoint := (escapedAs_escape isSmall).readPoint_append []
        rw [empty] at isPoint
        cases isPoint
      have positive := List.length_pos_iff.mpr nonempty
      have others := inductionHypothesis small
      rw [List.flatMap_cons, List.length_append, List.length_cons]
      omega

/-- What a reader of single characters accepts is read as the first character of a string. -/
theorem readPoints_of_readPoint {text behind : List Char} {point : CodePoint}
    (isPoint : readPoint text = some (point, behind)) (limit : Nat) :
    readPoints (limit + 1) text =
      (readPoints limit behind).map fun (points, rest) => (point :: points, rest) := by
  have notClosed : ∀ rest, text ≠ '"' :: rest := by
    rintro rest rfl
    simp [readPoint] at isPoint
  rw [readPoints]
  case x_2 => exact notClosed
  rw [isPoint]
  cases others : readPoints limit behind with
  | none => simp [others]
  | some read => simp [others]

theorem readPoints_flatMap_escape {text : CodePoints}
    (small : ∀ unit ∈ text, unit.value < 0x10000) {limit : Nat} (enough : text.length < limit)
    (rest : List Char) :
    readPoints limit (text.flatMap escape ++ '"' :: rest) = some (text, rest) := by
  induction text generalizing limit with
  | nil =>
      obtain ⟨limit, rfl⟩ := Nat.exists_eq_succ_of_ne_zero (Nat.ne_zero_of_lt enough)
      rfl
  | cons unit units inductionHypothesis =>
      obtain ⟨isSmall, small⟩ := List.forall_mem_cons.mp small
      obtain ⟨limit, rfl⟩ := Nat.exists_eq_succ_of_ne_zero (Nat.ne_zero_of_lt enough)
      have first :=
        (escapedAs_escape isSmall).readPoint_append (units.flatMap escape ++ '"' :: rest)
      rw [List.flatMap_cons, List.append_assoc, readPoints_of_readPoint first,
        inductionHypothesis small (Nat.lt_of_succ_lt_succ enough)]
      rfl

/-- Reading a string that was written gives its text, but two surrogates that make a pair are one
code point then. -/
theorem readString_flatMap_escape (points : CodePoints) (rest : List Char) :
    readString (points.flatMap escape ++ '"' :: rest) =
      some (CodePoints.joinPairs points, rest) := by
  have byUnits : points.flatMap escape = (points.flatMap units).flatMap escape := by
    simp only [List.flatMap_assoc, ← escape_eq_units]
  have small : ∀ unit ∈ points.flatMap units, unit.value < 0x10000 := by
    intro unit isUnit
    obtain ⟨point, _, isUnit⟩ := List.mem_flatMap.mp isUnit
    exact value_lt_of_mem_units isUnit
  have enough : (points.flatMap units).length <
      ((points.flatMap units).flatMap escape ++ '"' :: rest).length := by
    have atMost := length_le_flatMap_escape small
    rw [List.length_append, List.length_cons]
    omega
  unfold readString
  rw [byUnits, readPoints_flatMap_escape small enough]
  simp [joinPairs_flatMap_units]

/-! ## Printable texts -/

theorem isPlain_hexDigit {value : Nat} (small : value < 16) : IsPlain (hexDigit value) := by
  have all : ∀ digit : Fin 16, IsPlain (hexDigit digit) := by decide
  exact all ⟨value, small⟩

theorem isPlain_of_mem_escapeUnit {value : Nat} {character : Char}
    (member : character ∈ escapeUnit value) : IsPlain character := by
  rw [escapeUnit_eq] at member
  simp only [List.mem_cons, List.not_mem_nil, or_false] at member
  rcases member with rfl | rfl | rfl | rfl | rfl | rfl
  · decide
  · decide
  · exact isPlain_hexDigit (Nat.mod_lt _ (by decide))
  · exact isPlain_hexDigit (Nat.mod_lt _ (by decide))
  · exact isPlain_hexDigit (Nat.mod_lt _ (by decide))
  · exact isPlain_hexDigit (Nat.mod_lt _ (by decide))

theorem EscapedAs.isPlain_of_mem {unit : CodePoint} {written : List Char}
    (escaped : EscapedAs unit written) {character : Char} (member : character ∈ written) :
    IsPlain character := by
  cases escaped with
  | letter _ isPlain =>
      simp only [List.mem_cons, List.not_mem_nil, or_false] at member
      rcases member with rfl | rfl
      · decide
      · exact isPlain
  | plain _ _ isPlain =>
      rw [List.mem_singleton] at member
      exact member ▸ isPlain
  | digits => exact isPlain_of_mem_escapeUnit member

theorem isPlain_of_mem_escape {point : CodePoint} {character : Char}
    (member : character ∈ escape point) : IsPlain character := by
  rw [escape_eq_units] at member
  obtain ⟨unit, isUnit, member⟩ := List.mem_flatMap.mp member
  exact (escapedAs_escape (value_lt_of_mem_units isUnit)).isPlain_of_mem member

theorem isPlain_of_mem_text {points : CodePoints} {character : Char}
    (member : character ∈ (text points).toList) : IsPlain character := by
  unfold text at member
  rw [String.toList_ofList, List.mem_append, List.mem_cons, List.mem_singleton] at member
  rcases member with (rfl | inside) | rfl
  · decide
  · obtain ⟨point, _, member⟩ := List.mem_flatMap.mp inside
    exact isPlain_of_mem_escape member
  · decide

end SurfaceDiff.Report.Json
