import SurfaceDiff.ClassFile.Cursor

/-!
Contract: numbers of one, two and four bytes, the most significant byte first.

Owns: the writing of such numbers as `u1`, `u2` and `u4`, that reading inverts it, and the splitting
of byte strings into numbers of two bytes.
-/

namespace SurfaceDiff.ClassFile

def u1 (value : Nat) : List UInt8 :=
  [UInt8.ofNat value]

def u2 (value : Nat) : List UInt8 :=
  [UInt8.ofNat (value / 0x100), UInt8.ofNat value]

def u4 (value : Nat) : List UInt8 :=
  [UInt8.ofNat (value / 0x1000000), UInt8.ofNat (value / 0x10000), UInt8.ofNat (value / 0x100),
    UInt8.ofNat value]

theorem ofNat_eq_of_mod {value : Nat} (byte : UInt8) (same : value % 0x100 = byte.toNat) :
    UInt8.ofNat value = byte := by
  apply UInt8.toNat_inj.mp
  rw [UInt8.toNat_ofNat']
  exact same

theorem eq_u1_iff (bytes : List UInt8) (value : Nat) :
    bytes.length = 1 ∧ bigEndian bytes = value ↔ bytes = u1 value ∧ value < 0x100 := by
  constructor
  · intro read
    rcases read with ⟨length, rfl⟩
    obtain ⟨byte, rfl⟩ := List.length_eq_one_iff.mp length
    have bound := byte.toNat_lt
    simp [bigEndian, u1, bound]
  · intro written
    rcases written with ⟨rfl, bound⟩
    simp [bigEndian, u1, Nat.mod_eq_of_lt bound]

theorem eq_u2_iff (bytes : List UInt8) (value : Nat) :
    bytes.length = 2 ∧ bigEndian bytes = value ↔ bytes = u2 value ∧ value < 0x10000 := by
  constructor
  · intro read
    rcases read with ⟨length, rfl⟩
    match bytes, length with
    | [first, second], _ =>
        have firstBound := first.toNat_lt
        have secondBound := second.toNat_lt
        have value : bigEndian [first, second] = first.toNat * 0x100 + second.toNat := by
          simp [bigEndian]
        rw [value, u2, ofNat_eq_of_mod first (by omega),
          ofNat_eq_of_mod second (by omega)]
        exact ⟨rfl, by omega⟩
  · intro written
    rcases written with ⟨rfl, bound⟩
    refine ⟨rfl, ?_⟩
    simp only [bigEndian, u2, List.foldl_cons, List.foldl_nil, UInt8.toNat_ofNat']
    omega

theorem eq_u4_iff (bytes : List UInt8) (value : Nat) :
    bytes.length = 4 ∧ bigEndian bytes = value ↔ bytes = u4 value ∧ value < 0x100000000 := by
  constructor
  · intro read
    rcases read with ⟨length, rfl⟩
    match bytes, length with
    | [first, second, third, fourth], _ =>
        have firstBound := first.toNat_lt
        have secondBound := second.toNat_lt
        have thirdBound := third.toNat_lt
        have fourthBound := fourth.toNat_lt
        have value : bigEndian [first, second, third, fourth] =
            ((first.toNat * 0x100 + second.toNat) * 0x100 + third.toNat) * 0x100 +
              fourth.toNat := by
          simp [bigEndian]
        rw [value, u4, ofNat_eq_of_mod first (by omega),
          ofNat_eq_of_mod second (by omega), ofNat_eq_of_mod third (by omega),
          ofNat_eq_of_mod fourth (by omega)]
        exact ⟨rfl, by omega⟩
  · intro written
    rcases written with ⟨rfl, bound⟩
    refine ⟨rfl, ?_⟩
    simp only [bigEndian, u4, List.foldl_cons, List.foldl_nil, UInt8.toNat_ofNat']
    omega

/-- Two bytes hold some number, whatever they are. -/
theorem exists_u2_of_length {bytes : List UInt8} (length : bytes.length = 2) :
    ∃ value : UInt16, bytes = u2 value.toNat := by
  obtain ⟨word, bound⟩ := (eq_u2_iff bytes _).mp ⟨length, rfl⟩
  exact ⟨.ofNat (bigEndian bytes), by rwa [UInt16.toNat_ofNat_of_lt' bound]⟩

theorem exists_u2_append_of_length {count : Nat} {bytes : List UInt8}
    (length : bytes.length = count + 2) :
    ∃ (value : UInt16) (rest : List UInt8), rest.length = count ∧ bytes = u2 value.toNat ++ rest := by
  have front : (bytes.take 2).length = 2 := by
    rw [List.length_take]
    omega
  have back : (bytes.drop 2).length = count := by
    rw [List.length_drop]
    omega
  obtain ⟨value, isValue⟩ := exists_u2_of_length front
  exact ⟨value, bytes.drop 2, back, by rw [← isValue, List.take_append_drop]⟩

theorem exists_two_u2_of_length {bytes : List UInt8} (length : bytes.length = 4) :
    ∃ first second : UInt16, bytes = u2 first.toNat ++ u2 second.toNat := by
  obtain ⟨first, rest, restLength, rfl⟩ := exists_u2_append_of_length length
  obtain ⟨second, rfl⟩ := exists_u2_of_length restLength
  exact ⟨first, second, rfl⟩

theorem exists_three_u2_of_length {bytes : List UInt8} (length : bytes.length = 6) :
    ∃ first second third : UInt16,
      bytes = u2 first.toNat ++ u2 second.toNat ++ u2 third.toNat := by
  obtain ⟨first, rest, restLength, rfl⟩ := exists_u2_append_of_length length
  obtain ⟨second, third, rfl⟩ := exists_two_u2_of_length restLength
  exact ⟨first, second, third, (List.append_assoc _ _ _).symm⟩

/-- An even number of bytes is a sequence of numbers of two bytes. -/
theorem exists_u2s_of_length {count : Nat} {bytes : List UInt8}
    (length : bytes.length = 2 * count) :
    ∃ values : List UInt16, values.length = count ∧
      bytes = values.flatMap fun value => u2 value.toNat := by
  induction count generalizing bytes with
  | zero => exact ⟨[], rfl, List.length_eq_zero_iff.mp length⟩
  | succ count inductionHypothesis =>
      obtain ⟨value, rest, restLength, rfl⟩ := exists_u2_append_of_length length
      obtain ⟨values, rfl, rfl⟩ := inductionHypothesis restLength
      exact ⟨value :: values, rfl, rfl⟩

theorem length_u2s (values : List UInt16) :
    (values.flatMap fun value => u2 value.toNat).length = 2 * values.length := by
  induction values with
  | nil => rfl
  | cons value rest inductionHypothesis =>
      rw [List.flatMap_cons, List.length_append, inductionHypothesis, List.length_cons]
      exact Nat.add_comm 2 _

end SurfaceDiff.ClassFile
