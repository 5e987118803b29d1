import SurfaceDiff.Proofs.ClassFile.Layout
import SurfaceDiff.Proofs.ClassFile.Recognition

/-!
Contract: the readers of fields, methods and attributes recognise the bytes of such parts.

Owns: which texts and classes a pool holds, and the words of every reader of a member.
Does not own: how a pool is read.
-/

namespace SurfaceDiff.ClassFile.Layout

open Text

/-! ## What a pool resolves -/

def HoldsText (pool : ConstantPool) (index : Nat) (points : CodePoints) : Prop :=
  pool.slots[index]? = some (.text points)

def HoldsClass (pool : ConstantPool) (index : Nat) (name : CodePoints) : Prop :=
  ∃ nameIndex, pool.slots[index]? = some (.classRef nameIndex) ∧ HoldsText pool nameIndex name

variable (pool : ConstantPool)

theorem holdsText_unique {index : Nat} {first second : CodePoints}
    (isFirst : HoldsText pool index first) (isSecond : HoldsText pool index second) :
    first = second := by
  have same := isFirst.symm.trans isSecond
  cases same
  rfl

theorem recognises_text (index : Nat) :
    Recognises (pool.text index) fun bytes value => bytes = [] ∧ HoldsText pool index value := by
  unfold ConstantPool.text HoldsText
  split
  case h_1 points found =>
    refine (Recognises.pure points).congr fun bytes value => ?_
    rw [found, Option.some.injEq, Slot.text.injEq, eq_comm (a := points)]
  case h_2 missing =>
    refine (Recognises.fail _).congr fun bytes value => ?_
    exact ⟨False.elim, fun holds => missing value holds.2⟩

theorem recognises_className (index : Nat) :
    Recognises (pool.className index) fun bytes value =>
      bytes = [] ∧ HoldsClass pool index value := by
  unfold ConstantPool.className HoldsClass
  split
  case h_1 nameIndex found =>
    refine (recognises_text pool nameIndex).congr fun bytes value => ?_
    rw [found]
    simp
  case h_2 missing =>
    refine (Recognises.fail _).congr fun bytes value => ?_
    refine ⟨False.elim, fun holds => ?_⟩
    obtain ⟨_, nameIndex, found, _⟩ := holds
    exact missing nameIndex found

/-- An index followed by what it resolves to. -/
theorem recognises_resolved {resolve : Nat → Reader CodePoints} {Resolves : Nat → CodePoints → Prop}
    (resolved : ∀ index, Recognises (resolve index) fun bytes value =>
      bytes = [] ∧ Resolves index value) :
    Recognises (Reader.number 2 >>= resolve) fun bytes value =>
      ∃ index : UInt16, bytes = u2 index.toNat ∧ Resolves index.toNat value := by
  refine (recognises_word.bind resolved).congr fun bytes value => ?_
  constructor
  · intro read
    rcases read with ⟨_, _, _, ⟨index, rfl, rfl⟩, ⟨rfl, resolves⟩, rfl⟩
    exact ⟨index, List.append_nil _, resolves⟩
  · intro written
    rcases written with ⟨index, rfl, resolves⟩
    exact ⟨_, _, [], ⟨index, rfl, rfl⟩, ⟨rfl, resolves⟩, (List.append_nil _).symm⟩

theorem recognises_readText :
    Recognises pool.readText fun bytes value =>
      ∃ index : UInt16, bytes = u2 index.toNat ∧ HoldsText pool index.toNat value :=
  recognises_resolved (recognises_text pool)

theorem recognises_readClassName :
    Recognises pool.readClassName fun bytes value =>
      ∃ index : UInt16, bytes = u2 index.toNat ∧ HoldsClass pool index.toNat value :=
  recognises_resolved (recognises_className pool)

/-! ## Parts that are skipped -/

theorem recognises_skipAttribute :
    Recognises skipAttribute fun bytes _ => ∃ item : Attribute, bytes = item.bytes ∧ True := by
  refine ((recognises_skip 2).bind fun _ => recognises_u4.bind recognises_skip).congr
    fun bytes value => ?_
  constructor
  · intro read
    rcases read with ⟨_, index, _, length, ⟨_, _, payload, ⟨rfl, fits⟩, rfl, rfl⟩, rfl⟩
    obtain ⟨nameIndex, rfl⟩ := exists_u2_of_length length
    exact ⟨⟨nameIndex, payload, fits⟩, (List.append_assoc _ _ _).symm, trivial⟩
  · intro written
    rcases written with ⟨item, rfl, _⟩
    exact ⟨(), _, _, rfl, ⟨_, _, _, ⟨rfl, item.payload_fits⟩, rfl, rfl⟩, List.append_assoc _ _ _⟩

theorem recognises_skipAttributes :
    Recognises skipAttributes fun bytes _ => ∃ items : List Attribute,
      items.length < 0x10000 ∧ bytes = u2 items.length ++ items.flatMap Attribute.bytes := by
  refine ((recognises_counted recognises_skipAttribute).bind fun _ => .pure ()).congr
    fun bytes value => ?_
  constructor
  · intro read
    rcases read with ⟨_, _, _, ⟨items, rfl, _, fits⟩, ⟨rfl, _⟩, rfl⟩
    exact ⟨items, fits, List.append_nil _⟩
  · intro written
    rcases written with ⟨items, fits, rfl⟩
    exact ⟨_, _, [], ⟨items, rfl, forall₂_skipped items, fits⟩, ⟨rfl, rfl⟩,
      (List.append_nil _).symm⟩

theorem recognises_skipField :
    Recognises skipField fun bytes _ => ∃ member : Member, bytes = member.bytes ∧ True := by
  refine ((recognises_skip 6).bind fun _ => recognises_skipAttributes).congr fun bytes value => ?_
  constructor
  · intro read
    rcases read with ⟨_, _, _, length, ⟨items, fits, rfl⟩, rfl⟩
    obtain ⟨accessFlags, nameIndex, descriptorIndex, rfl⟩ := exists_three_u2_of_length length
    exact ⟨⟨accessFlags, nameIndex, descriptorIndex, items, fits⟩, rfl, trivial⟩
  · intro written
    rcases written with ⟨member, rfl, _⟩
    exact ⟨(), _, _, rfl, ⟨member.attributes, member.attributes_fit, rfl⟩, rfl⟩

/-! ## Methods -/

theorem recognises_readAttribute :
    Recognises (readAttribute pool) fun bytes value => ∃ item : Attribute,
      bytes = item.bytes ∧ HoldsText pool item.nameIndex.toNat value.name ∧
        value.payload = item.payload := by
  refine ((recognises_readText pool).bind fun name => recognises_u4.bind fun size =>
    (recognises_block size).bind fun payload =>
      .pure (⟨name, payload⟩ : ClassFile.Attribute)).congr fun bytes value => ?_
  constructor
  · intro read
    rcases read with ⟨_, _, _, ⟨nameIndex, rfl, named⟩, ⟨_, _, _, ⟨rfl, fits⟩,
      ⟨payload, _, _, ⟨rfl, rfl⟩, ⟨rfl, rfl⟩, rfl⟩, rfl⟩, rfl⟩
    exact ⟨⟨nameIndex, payload, fits⟩, by simp [Attribute.bytes], named, rfl⟩
  · intro written
    rcases written with ⟨item, rfl, named, same⟩
    refine ⟨_, _, _, ⟨item.nameIndex, rfl, named⟩, ⟨_, _, _, ⟨rfl, item.payload_fits⟩,
      ⟨item.payload, _, [], ⟨rfl, rfl⟩, ⟨rfl, ?_⟩, rfl⟩, rfl⟩, by simp [Attribute.bytes]⟩
    rw [← same]

theorem recognises_readInstructions :
    Recognises readInstructions fun bytes code => ∃ maxStack maxLocals : UInt16,
      code.length < 0x100000000 ∧
        bytes = u2 maxStack.toNat ++ u2 maxLocals.toNat ++ u4 code.length ++ code := by
  refine ((recognises_skip 4).bind fun _ => recognises_u4.bind recognises_block).congr
    fun bytes code => ?_
  constructor
  · intro read
    rcases read with ⟨_, limits, _, length, ⟨_, _, _, ⟨rfl, fits⟩, ⟨rfl, rfl⟩, rfl⟩, rfl⟩
    obtain ⟨maxStack, maxLocals, rfl⟩ := exists_two_u2_of_length length
    exact ⟨maxStack, maxLocals, fits, by simp⟩
  · intro written
    rcases written with ⟨maxStack, maxLocals, fits, rfl⟩
    exact ⟨(), u2 maxStack.toNat ++ u2 maxLocals.toNat, _, rfl,
      ⟨_, _, _, ⟨rfl, fits⟩, ⟨rfl, rfl⟩, rfl⟩, by simp⟩

theorem run_readInstructions_eq_ok_iff (payload code : List UInt8) :
    readInstructions.run payload = .ok code ↔ HoldsCode payload code := by
  rw [run_eq_ok_iff recognises_readInstructions]
  constructor
  · intro accepted
    rcases accepted with ⟨_, rest, ⟨maxStack, maxLocals, fits, rfl⟩, rfl⟩
    exact ⟨maxStack, maxLocals, rest, fits, rfl⟩
  · intro holds
    rcases holds with ⟨maxStack, maxLocals, rest, fits, rfl⟩
    exact ⟨_, rest, ⟨maxStack, maxLocals, fits, rfl⟩, rfl⟩

/-- While no instructions are known the first attribute named `Code` decides, afterwards none. -/
theorem recognises_readCode (count : Nat) (code : Option (List UInt8)) :
    Recognises (readCode pool count code) fun bytes result => ∃ items : List Attribute,
      bytes = items.flatMap Attribute.bytes ∧ items.length = count ∧
        (∀ item ∈ items, ∃ name, HoldsText pool item.nameIndex.toNat name) ∧
        (code = none → CodeOf (HoldsText pool) items result) ∧ (code ≠ none → result = code) := by
  induction count generalizing code with
  | zero =>
      refine (Recognises.pure code).congr fun bytes result => ?_
      constructor
      · intro read
        rcases read with ⟨rfl, rfl⟩
        refine ⟨[], rfl, rfl, by simp, fun unknown => ?_, fun _ => rfl⟩
        rw [unknown]
        exact .absent
      · intro written
        rcases written with ⟨items, rfl, length, _, unknown, known⟩
        obtain rfl := List.length_eq_zero_iff.mp length
        refine ⟨rfl, ?_⟩
        cases code with
        | none => cases unknown rfl; rfl
        | some instructions => exact known nofun
  | succ count inductionHypothesis =>
      refine ((recognises_readAttribute pool).bind fun item => Recognises.ite
        (fun _ => (recognises_lift fun _ => format_of_run_eq_error recognises_readInstructions).bind
          fun instructions => inductionHypothesis (some instructions))
        (fun _ => inductionHypothesis code)).congr fun bytes result => ?_
      constructor
      · intro read
        rcases read with ⟨item, _, _, ⟨entry, rfl, named, payload⟩, step, rfl⟩
        split at step
        case isTrue decisive =>
          -- From here on the instructions are known, and the rest only has to have names.
          obtain ⟨isCode, rfl⟩ := decisive
          rcases step with ⟨code, _, _, ⟨rfl, ran⟩, ⟨items, rfl, rfl, names, _, known⟩, rfl⟩
          rw [payload, run_readInstructions_eq_ok_iff] at ran
          refine ⟨entry :: items, rfl, rfl, List.forall_mem_cons.mpr ⟨⟨_, named⟩, names⟩,
            fun _ => ?_, fun some => absurd rfl some⟩
          rw [known nofun]
          rw [isCode] at named
          exact .first named ran
        case isFalse undecided =>
          rcases step with ⟨items, rfl, rfl, names, unknown, known⟩
          refine ⟨entry :: items, rfl, rfl, List.forall_mem_cons.mpr ⟨⟨_, named⟩, names⟩,
            fun isNone => ?_, known⟩
          exact .other named (fun isCode => undecided ⟨isCode, isNone⟩) (unknown isNone)
      · intro written
        rcases written with ⟨items, rfl, length, names, unknown, known⟩
        cases items with
        | nil => cases length
        | cons entry rest =>
            obtain ⟨⟨name, named⟩, names⟩ := List.forall_mem_cons.mp names
            have restLength : rest.length = count := by simpa using length
            refine ⟨⟨name, entry.payload⟩, entry.bytes, _, ⟨entry, rfl, named, rfl⟩, ?_, rfl⟩
            split
            case isTrue decisive =>
              obtain ⟨rfl, rfl⟩ := decisive
              cases unknown rfl with
              | other otherwise different _ =>
                  exact absurd (holdsText_unique pool otherwise named) different
              | first _ holds =>
                  rw [← run_readInstructions_eq_ok_iff] at holds
                  exact ⟨_, [], _, ⟨rfl, holds⟩, ⟨rest, rfl, restLength, names, nofun, fun _ => rfl⟩, rfl⟩
            case isFalse undecided =>
              refine ⟨rest, rfl, restLength, names, fun isNone => ?_, known⟩
              cases unknown isNone with
              | other _ _ later => exact later
              | first isCode _ =>
                  exact absurd ⟨holdsText_unique pool named isCode, isNone⟩ undecided

theorem recognises_readMethod :
    Recognises (readMethod pool) fun bytes method => ∃ member : Member,
      bytes = member.bytes ∧ DenotesMethod (HoldsText pool) member method := by
  refine (recognises_word.bind fun accessFlags => (recognises_readText pool).bind fun name =>
    (recognises_readText pool).bind fun descriptor => recognises_u2.bind fun count =>
    (recognises_readCode pool count none).bind fun code =>
      .pure (⟨name, descriptor, accessFlags, code⟩ : Method)).congr fun bytes method => ?_
  constructor
  · intro read
    rcases read with ⟨_, _, _, ⟨accessFlags, rfl, rfl⟩, ⟨name, _, _, ⟨nameIndex, rfl, named⟩,
      ⟨descriptor, _, _, ⟨descriptorIndex, rfl, described⟩, ⟨_, _, _, ⟨rfl, fits⟩,
      ⟨code, _, _, ⟨items, rfl, rfl, names, isCode, _⟩, ⟨rfl, rfl⟩, rfl⟩, rfl⟩, rfl⟩, rfl⟩, rfl⟩
    exact ⟨⟨accessFlags, nameIndex, descriptorIndex, items, fits⟩, by simp [Member.bytes],
      ⟨named, described, rfl, names, isCode rfl⟩⟩
  · intro written
    rcases written with ⟨member, rfl, denoted⟩
    refine ⟨_, _, _, ⟨member.accessFlags, rfl, rfl⟩,
      ⟨method.name, _, _, ⟨member.nameIndex, rfl, denoted.name⟩,
      ⟨method.descriptor, _, _, ⟨member.descriptorIndex, rfl, denoted.descriptor⟩,
      ⟨_, _, _, ⟨rfl, member.attributes_fit⟩, ⟨method.code, _, [],
        ⟨member.attributes, rfl, rfl, denoted.attributeNames, fun _ => denoted.code, nofun⟩,
        ⟨rfl, ?_⟩, rfl⟩, rfl⟩, rfl⟩, rfl⟩, by simp [Member.bytes]⟩
    rw [← denoted.accessFlags]

end SurfaceDiff.ClassFile.Layout
