import SurfaceDiff.Proofs.ClassFile.Pool

/-!
Contract: the reader of a whole class file recognises the bytes of layouts and gives their contents.

Owns: the conditions on a layout as it is written, `Declares`, and that the reader succeeds exactly
on the byte strings that declare something.
Does not own: the class declaration that is made of the contents.
-/

namespace SurfaceDiff.ClassFile

open Text

namespace Layout

/-! ## The sections behind the pool -/

theorem recognises_readSuperName (pool : ConstantPool) :
    Recognises (readSuperName pool) fun bytes value => ∃ index : UInt16,
      bytes = u2 index.toNat ∧ SuperOf (HoldsClass pool) index.toNat value := by
  refine Recognises.congr (.bind recognises_word fun index => .ite (fun _ => .pure none)
    fun _ => (recognises_className pool index).bind fun name => .pure (some name))
    fun bytes value => ?_
  constructor
  · intro read
    rcases read with ⟨_, _, _, ⟨index, rfl, rfl⟩, resolved, rfl⟩
    refine ⟨index, ?_⟩
    split_ifs at resolved with isZero
    · rcases resolved with ⟨rfl, rfl⟩
      rw [isZero, List.append_nil]
      exact ⟨rfl, .none⟩
    · rcases resolved with ⟨name, _, _, ⟨rfl, holds⟩, ⟨rfl, rfl⟩, rfl⟩
      rw [List.append_nil, List.append_nil]
      exact ⟨rfl, .some isZero holds⟩
  · intro written
    rcases written with ⟨index, rfl, isSuper⟩
    refine ⟨index.toNat, _, [], ⟨index, rfl, rfl⟩, ?_, (List.append_nil _).symm⟩
    generalize index.toNat = number at isSuper
    cases isSuper with
    | none =>
        rw [if_pos rfl]
        exact ⟨rfl, rfl⟩
    | @some _ name present named =>
        rw [if_neg present]
        exact ⟨name, [], [], ⟨rfl, named⟩, ⟨rfl, rfl⟩, rfl⟩

theorem recognises_skipInterfaces :
    Recognises skipInterfaces fun bytes _ => ∃ indices : List UInt16,
      indices.length < 0x10000 ∧
        bytes = u2 indices.length ++ indices.flatMap fun index => u2 index.toNat := by
  refine (recognises_u2.bind fun count => recognises_skip (2 * count)).congr fun bytes value => ?_
  constructor
  · intro read
    rcases read with ⟨_, _, _, ⟨rfl, bound⟩, length, rfl⟩
    obtain ⟨indices, rfl, rfl⟩ := exists_u2s_of_length length
    exact ⟨indices, bound, rfl⟩
  · intro written
    rcases written with ⟨indices, bound, rfl⟩
    exact ⟨_, _, _, ⟨rfl, bound⟩, length_u2s indices, rfl⟩

/-- The magic number is checked elsewhere and only skipped here. -/
theorem recognises_skipHeader :
    Recognises (Reader.skip 8) fun bytes _ =>
      ∃ (start : List UInt8) (minorVersion majorVersion : UInt16), start.length = 4 ∧
        bytes = start ++ (u2 minorVersion.toNat ++ u2 majorVersion.toNat) := by
  refine (recognises_skip 8).congr fun bytes value => ?_
  constructor
  · intro length
    have front : (bytes.take 4).length = 4 := by
      rw [List.length_take]
      omega
    have back : (bytes.drop 4).length = 4 := by
      rw [List.length_drop]
      omega
    obtain ⟨minorVersion, majorVersion, areVersions⟩ := exists_two_u2_of_length back
    exact ⟨bytes.take 4, minorVersion, majorVersion, front,
      by rw [← areVersions, List.take_append_drop]⟩
  · intro written
    rcases written with ⟨start, minorVersion, majorVersion, length, rfl⟩
    rw [List.length_append, length]
    rfl

theorem recognises_readMethods (pool : ConstantPool) :
    Recognises (readMethods pool) fun bytes methods =>
      ∃ (interfaces : List UInt16) (fields members : List Member),
        interfaces.length < 0x10000 ∧ fields.length < 0x10000 ∧ members.length < 0x10000 ∧
          List.Forall₂ (DenotesMethod (HoldsText pool)) members methods ∧
          bytes = (u2 interfaces.length ++ interfaces.flatMap fun index => u2 index.toNat) ++
            (u2 fields.length ++ fields.flatMap Member.bytes) ++
            (u2 members.length ++ members.flatMap Member.bytes) := by
  refine (recognises_skipInterfaces.bind fun _ => (recognises_counted recognises_skipField).bind
    fun _ => recognises_counted (recognises_readMethod pool)).congr fun bytes methods => ?_
  constructor
  · intro read
    rcases read with ⟨_, _, _, ⟨interfaces, interfacesFit, rfl⟩,
      ⟨_, _, _, ⟨fields, rfl, _, fieldsFit⟩, ⟨members, rfl, denoted, membersFit⟩, rfl⟩, rfl⟩
    exact ⟨interfaces, fields, members, interfacesFit, fieldsFit, membersFit, denoted,
      (List.append_assoc _ _ _).symm⟩
  · intro written
    rcases written with ⟨interfaces, fields, members, interfacesFit, fieldsFit, membersFit,
      denoted, rfl⟩
    exact ⟨(), _, _, ⟨interfaces, interfacesFit, rfl⟩, ⟨_, _, _,
      ⟨fields, rfl, forall₂_skipped fields, fieldsFit⟩, ⟨members, rfl, denoted, membersFit⟩, rfl⟩,
      List.append_assoc _ _ _⟩

/-! ## Class files -/

/-- The number of slots in the file is one more than the slots of the constants, but for the second
slot of a wide constant at the end, which may be missing; and every text can be read. -/
structure Admissible (file : Layout (List UInt8)) : Prop where
  poolCount : file.poolCount.toNat = 1 + totalSlots file.constants ∨
    file.poolCount.toNat = totalSlots file.constants ∧
      ∃ before last, file.constants = before ++ [last] ∧ last.isWide = true
  texts : ∀ constant ∈ file.constants, constant.Readable

/-- No index leads to slot 0, to the second slot of a constant, or to the count and beyond. -/
def ResolvesWithin {τ : Type} (file : Layout τ) : Prop :=
  ∀ index constant, At file.constants index constant →
    0 < index ∧ index < file.poolCount.toNat ∧
      (constant.isWide = true → ∀ other, ¬At file.constants (index + 1) other)

theorem Admissible.resolvesWithin {file : Layout (List UInt8)} (admissible : file.Admissible) :
    file.ResolvesWithin := by
  intro index constant isAt
  refine ⟨?_, ?_, isAt.not_at_succ⟩
  · obtain ⟨_, _, _, position⟩ := isAt
    omega
  · obtain ⟨before, after, isFile, position⟩ := isAt
    have total : totalSlots file.constants =
        totalSlots before + (constant.slotCount + totalSlots after) := by
      rw [isFile, totalSlots_append, totalSlots]
    rw [slotCount_eq] at total
    rcases admissible.poolCount with exactly | cut
    · omega
    · obtain ⟨same, front, last, ends, wide⟩ := cut
      cases after with
      | nil =>
          rw [isFile] at ends
          obtain ⟨_, only⟩ := List.append_inj' ends rfl
          obtain rfl := (List.cons.inj only).1
          rw [wide, Bool.toNat_true] at total
          omega
      | cons next after =>
          rw [totalSlots, slotCount_eq] at total
          omega

theorem recognises_readContents :
    Recognises readContents fun bytes contents =>
      ∃ (start : List UInt8) (file : Layout (List UInt8)), start.length = 4 ∧
        bytes = start ++ file.body ∧ file.Admissible ∧ (file.map decoded).Denotes contents := by
  refine Recognises.congr (.bind recognises_skipHeader fun _ => .bind recognises_read fun pool =>
    .bind recognises_word fun accessFlags => .bind (recognises_readClassName pool) fun name =>
    .bind (recognises_readSuperName pool) fun superName => .bind (recognises_readMethods pool)
    fun methods => .pure (⟨name, accessFlags, superName, methods⟩ : Contents)) fun bytes contents => ?_
  constructor
  · intro read
    rcases read with ⟨_, _, _, ⟨start, minorVersion, majorVersion, length, rfl⟩,
      ⟨pool, _, _, ⟨poolCount, constants, slots, rfl, readable, tabulates, same⟩,
      ⟨_, _, _, ⟨accessFlags, rfl, rfl⟩, ⟨name, _, _, ⟨thisIndex, rfl, named⟩,
      ⟨superName, _, _, ⟨superIndex, rfl, isSuper⟩, ⟨methods, _, _, ⟨interfaces, fields, members,
      interfacesFit, fieldsFit, membersFit, denoted, rfl⟩, ⟨rfl, rfl⟩, rfl⟩, rfl⟩, rfl⟩, rfl⟩, rfl⟩,
      rfl⟩
    rw [holdsClass_eq tabulates same] at named isSuper
    rw [holdsText_eq tabulates same] at denoted
    -- A name was resolved, so there is a slot and the count in the file is not 0.
    have some : 0 < totalSlots constants := by
      obtain ⟨_, isAt, _⟩ := named
      rw [← totalSlots_map decoded]
      exact isAt.totalSlots_pos
    have fills := (fills_pred_iff some).mp ((fills_map_iff decoded _ _ _).mp tabulates.fills)
    exact ⟨start, ⟨minorVersion, majorVersion, poolCount, constants, accessFlags, thisIndex,
      superIndex, interfaces, interfacesFit, fields, fieldsFit, members, membersFit⟩, length,
      by simp [body, poolBytes, memberBytes], ⟨fills, readable⟩, ⟨named, rfl, isSuper, denoted⟩⟩
  · intro written
    rcases written with ⟨start, file, length, rfl, admissible, denoted⟩
    obtain ⟨named, flags, isSuper, denoted⟩ := denoted
    have some : 0 < totalSlots file.constants := by
      obtain ⟨_, isAt, _⟩ := named
      rw [← totalSlots_map decoded]
      exact isAt.totalSlots_pos
    have fills := (fills_pred_iff some).mpr admissible.poolCount
    obtain ⟨slots, tabulates⟩ := exists_tabulates ((fills_map_iff decoded _ _ _).mpr fills)
    have same : (⟨#[.other] ++ slots.toArray⟩ : ConstantPool).slots.toList = .other :: slots := by
      simp
    rw [map, ← holdsClass_eq tabulates same] at named isSuper
    rw [map, ← holdsText_eq tabulates same] at denoted
    refine ⟨(), _, _, ⟨start, file.minorVersion, file.majorVersion, length, rfl⟩,
      ⟨_, _, _, ⟨file.poolCount, file.constants, slots, rfl, admissible.texts, tabulates, same⟩,
      ⟨_, _, _, ⟨file.accessFlags, rfl, rfl⟩, ⟨contents.name, _, _, ⟨file.thisIndex, rfl, named⟩,
      ⟨contents.superName, _, _, ⟨file.superIndex, rfl, isSuper⟩, ⟨contents.methods, _, [],
      ⟨file.interfaces, file.fields, file.methods, file.interfaces_fit, file.fields_fit,
      file.methods_fit, denoted, rfl⟩, ⟨rfl, ?_⟩, rfl⟩, rfl⟩, rfl⟩, rfl⟩, rfl⟩,
      by simp [body, poolBytes, memberBytes]⟩
    have sameFlags : contents.accessFlags = file.accessFlags.toNat := flags
    rw [← sameFlags]

end Layout

end SurfaceDiff.ClassFile
