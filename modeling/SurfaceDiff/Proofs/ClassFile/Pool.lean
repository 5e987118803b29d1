import SurfaceDiff.Proofs.ClassFile.Members
import SurfaceDiff.Proofs.ClassFile.Slots

/-!
Contract: the reader of the constant pool recognises the bytes of constants that fill its slots.

Owns: what a written text is decoded to, the words of the readers of entries and of the pool, and
that a pool resolves the indices of its constants.
Does not own: the numbering of slots.
-/

namespace SurfaceDiff.ClassFile.Layout

open Text

/-! ## Written texts -/

/-- The text that bytes are read as; bytes that cannot be read stand for no text. -/
def decoded (content : List UInt8) : CodePoints :=
  match ModifiedUtf8.decode content with
  | .ok points => points
  | .error _ => []

/-- A written text has a length of two bytes, and can be decoded. -/
def Readable (content : List UInt8) : Prop :=
  content.length < 0x10000 ∧ ∃ points, ModifiedUtf8.decode content = .ok points

theorem decoded_of_eq_ok {content : List UInt8} {points : CodePoints}
    (isText : ModifiedUtf8.decode content = .ok points) : decoded content = points := by
  unfold decoded
  rw [isText]

/-- Only texts can be unreadable. -/
def Constant.Readable : Constant (List UInt8) → Prop
  | text content => Layout.Readable content
  | _ => True

/-! ## Entries -/

theorem payloadSize?_tag (kind : Kind) : ConstantPool.payloadSize? kind.tag = some kind.size := by
  cases kind <;> rfl

/-- Every tag of known size belongs to a kind. -/
theorem exists_kind_of_payloadSize? {tag size : Nat}
    (known : ConstantPool.payloadSize? tag = some size) :
    ∃ kind : Kind, kind.tag = tag ∧ kind.size = size := by
  unfold ConstantPool.payloadSize? at known
  split at known
  case h_1 => exact ⟨.integer, rfl, Option.some.inj known⟩
  case h_2 => exact ⟨.float, rfl, Option.some.inj known⟩
  case h_3 => exact ⟨.long, rfl, Option.some.inj known⟩
  case h_4 => exact ⟨.double, rfl, Option.some.inj known⟩
  case h_5 => exact ⟨.string, rfl, Option.some.inj known⟩
  case h_6 => exact ⟨.fieldRef, rfl, Option.some.inj known⟩
  case h_7 => exact ⟨.methodRef, rfl, Option.some.inj known⟩
  case h_8 => exact ⟨.interfaceMethodRef, rfl, Option.some.inj known⟩
  case h_9 => exact ⟨.nameAndType, rfl, Option.some.inj known⟩
  case h_10 => exact ⟨.methodHandle, rfl, Option.some.inj known⟩
  case h_11 => exact ⟨.methodType, rfl, Option.some.inj known⟩
  case h_12 => exact ⟨.dynamic, rfl, Option.some.inj known⟩
  case h_13 => exact ⟨.invokeDynamic, rfl, Option.some.inj known⟩
  case h_14 => exact ⟨.moduleRef, rfl, Option.some.inj known⟩
  case h_15 => exact ⟨.packageRef, rfl, Option.some.inj known⟩
  case h_16 => cases known

theorem isWide_other {τ : Type} (kind : Kind) (payload : List UInt8)
    (sized : payload.length = kind.size) :
    (.other kind payload sized : Constant τ).isWide = decide (ConstantPool.IsWide kind.tag) := by
  cases kind <;> rfl

theorem tag_bounds (kind : Kind) : kind.tag ≠ 1 ∧ kind.tag ≠ 7 ∧ kind.tag < 0x100 := by
  cases kind <;> decide

theorem recognises_readTextEntry :
    Recognises ConstantPool.readTextEntry fun bytes slot => ∃ content,
      bytes = u2 content.length ++ content ∧ Readable content ∧ slot = .text (decoded content) := by
  have decodes (content : List UInt8) : Recognises
      (match ModifiedUtf8.decode content with
        | .ok points => return Slot.text points
        | .error cause => Reader.fail (.malformedText cause))
      fun bytes slot => bytes = [] ∧ (∃ points, ModifiedUtf8.decode content = .ok points) ∧
        slot = .text (decoded content) := by
    split
    case h_1 points isText =>
      refine (Recognises.pure (Slot.text points)).congr fun bytes slot => ?_
      rw [decoded_of_eq_ok isText, isText]
      simp
    case h_2 cause malformed =>
      refine (Recognises.fail _).congr fun bytes slot => ?_
      rw [malformed]
      simp
  refine (recognises_u2.bind fun length => (recognises_block length).bind decodes).congr
    fun bytes slot => ?_
  constructor
  · intro read
    rcases read with ⟨_, _, _, ⟨rfl, bound⟩, ⟨content, _, _, ⟨rfl, rfl⟩, ⟨rfl, isText, rfl⟩, rfl⟩, rfl⟩
    exact ⟨content, by rw [List.append_nil], ⟨bound, isText⟩, rfl⟩
  · intro written
    rcases written with ⟨content, rfl, ⟨bound, isText⟩, rfl⟩
    exact ⟨_, _, _, ⟨rfl, bound⟩, ⟨content, _, [], ⟨rfl, rfl⟩, ⟨rfl, isText, rfl⟩, rfl⟩,
      by rw [List.append_nil]⟩

/-- A constant that names nothing is as long as its tag says. -/
theorem recognises_payload (tag offset : Nat) :
    Recognises
      (match ConstantPool.payloadSize? tag with
        | some size => do
          Reader.skip size
          return (Slot.other, decide (ConstantPool.IsWide tag))
        | none => Reader.fail (.unknownTag tag offset))
      fun bytes result => ∃ kind : Kind, kind.tag = tag ∧ bytes.length = kind.size ∧
        result = (.other, decide (ConstantPool.IsWide tag)) := by
  split
  case h_1 size known =>
    refine ((recognises_skip size).bind fun _ =>
      .pure (Slot.other, decide (ConstantPool.IsWide tag))).congr fun bytes result => ?_
    constructor
    · intro read
      rcases read with ⟨_, payload, _, length, ⟨rfl, rfl⟩, rfl⟩
      obtain ⟨kind, isTag, isSize⟩ := exists_kind_of_payloadSize? known
      exact ⟨kind, isTag, by rw [List.append_nil, length, isSize], rfl⟩
    · intro written
      rcases written with ⟨kind, rfl, length, rfl⟩
      rw [payloadSize?_tag, Option.some.injEq] at known
      exact ⟨(), bytes, [], by rw [length, known], ⟨rfl, rfl⟩, (List.append_nil _).symm⟩
  case h_2 unknown =>
    refine (Recognises.fail _).congr fun bytes result => ?_
    constructor
    · exact False.elim
    · intro written
      rcases written with ⟨kind, rfl, _⟩
      rw [payloadSize?_tag] at unknown
      cases unknown

theorem recognises_readEntry :
    Recognises ConstantPool.readEntry fun bytes result => ∃ constant : Constant (List UInt8),
      bytes = constant.bytes ∧ constant.Readable ∧
        result = ((constant.map decoded).slot, constant.isWide) := by
  refine Recognises.congr (.offset_bind fun offset => .bind recognises_u1 fun tag => .ite
    (fun _ => recognises_readTextEntry.bind fun slot => .pure (slot, false))
    fun _ => .ite
      (fun _ => recognises_word.bind fun index => .pure (Slot.classRef index, false))
      fun _ => recognises_payload tag offset) fun bytes result => ?_
  constructor
  · intro read
    rcases read with ⟨tag, _, payload, ⟨rfl, _⟩, entry, rfl⟩
    split_ifs at entry with isText isClass
    · rcases entry with ⟨_, _, _, ⟨content, rfl, readable, rfl⟩, ⟨rfl, rfl⟩, rfl⟩
      refine ⟨.text content, ?_, readable, rfl⟩
      rw [isText, List.append_nil]
      rfl
    · rcases entry with ⟨_, _, _, ⟨nameIndex, rfl, rfl⟩, ⟨rfl, rfl⟩, rfl⟩
      exact ⟨.classRef nameIndex, by rw [isClass, List.append_nil]; rfl, trivial, rfl⟩
    · rcases entry with ⟨kind, rfl, sized, rfl⟩
      exact ⟨.other kind payload sized, rfl, trivial, by rw [isWide_other]; rfl⟩
  · intro written
    rcases written with ⟨constant, rfl, readable, rfl⟩
    cases constant with
    | text content =>
        refine ⟨1, _, _, ⟨rfl, by decide⟩, ?_, rfl⟩
        rw [if_pos rfl]
        exact ⟨_, _, [], ⟨content, rfl, readable, rfl⟩, ⟨rfl, rfl⟩, (List.append_nil _).symm⟩
    | classRef nameIndex =>
        refine ⟨7, _, _, ⟨rfl, by decide⟩, ?_, rfl⟩
        rw [if_neg (by decide), if_pos rfl]
        exact ⟨_, _, [], ⟨nameIndex, rfl, rfl⟩, ⟨rfl, rfl⟩, (List.append_nil _).symm⟩
    | other kind payload sized =>
        obtain ⟨notText, notClass, bound⟩ := tag_bounds kind
        refine ⟨kind.tag, _, _, ⟨rfl, bound⟩, ?_, rfl⟩
        rw [if_neg notText, if_neg notClass, isWide_other]
        exact ⟨kind, rfl, sized, rfl⟩

/-! ## The pool -/

theorem recognises_readSlots (count : Nat) (second : Bool) (before : Array Slot) :
    Recognises (ConstantPool.readSlots count second before) fun bytes result =>
      ∃ (constants : List (Constant (List UInt8))) (slots : List Slot),
        bytes = constants.flatMap Constant.bytes ∧
          (∀ constant ∈ constants, constant.Readable) ∧
          Tabulates second count (constants.map (Constant.map decoded)) slots ∧
          result.toList = before.toList ++ slots := by
  induction count generalizing second before with
  | zero =>
      refine (Recognises.pure before).congr fun bytes result => ?_
      constructor
      · intro read
        rcases read with ⟨rfl, rfl⟩
        exact ⟨[], [], rfl, by simp, .done second, by simp⟩
      · intro written
        rcases written with ⟨constants, slots, rfl, _, tabulates, same⟩
        obtain rfl := List.map_eq_nil_iff.mp tabulates.fills.eq_nil
        cases tabulates
        exact ⟨rfl, Array.toList_inj.mp (by simpa using same)⟩
  | succ count inductionHypothesis =>
      cases second with
      | true =>
          -- The second slot of the constant before is filled without reading.
          refine (inductionHypothesis false (before.push .other)).congr fun bytes result => ?_
          constructor
          · intro read
            rcases read with ⟨constants, slots, rfl, readable, tabulates, same⟩
            exact ⟨constants, .other :: slots, rfl, readable, .second tabulates, by simpa using same⟩
          · intro written
            rcases written with ⟨constants, _, rfl, readable, tabulates, same⟩
            cases tabulates with
            | @second _ _ slots later =>
                exact ⟨constants, slots, rfl, readable, later, by simpa using same⟩
      | false =>
          refine (recognises_readEntry.bind fun entry =>
            inductionHypothesis entry.2 (before.push entry.1)).congr fun bytes result => ?_
          constructor
          · intro read
            rcases read with ⟨_, _, _, ⟨constant, rfl, isReadable, rfl⟩,
              ⟨constants, slots, rfl, readable, tabulates, same⟩, rfl⟩
            rw [← Constant.isWide_map decoded] at tabulates
            exact ⟨constant :: constants, _ :: slots, rfl,
              List.forall_mem_cons.mpr ⟨isReadable, readable⟩, .constant tabulates,
              by simpa using same⟩
          · intro written
            rcases written with ⟨constants, _, rfl, readable, tabulates, same⟩
            cases constants with
            | nil => cases tabulates
            | cons constant rest =>
                obtain ⟨isReadable, readable⟩ := List.forall_mem_cons.mp readable
                cases tabulates with
                | @constant _ _ _ slots later =>
                    rw [Constant.isWide_map] at later
                    exact ⟨_, _, _, ⟨constant, rfl, isReadable, rfl⟩,
                      ⟨rest, slots, rfl, readable, later, by simpa using same⟩, rfl⟩

theorem recognises_read :
    Recognises ConstantPool.read fun bytes pool =>
      ∃ (count : UInt16) (constants : List (Constant (List UInt8))) (slots : List Slot),
        bytes = u2 count.toNat ++ constants.flatMap Constant.bytes ∧
          (∀ constant ∈ constants, constant.Readable) ∧
          Tabulates false (count.toNat - 1) (constants.map (Constant.map decoded)) slots ∧
          pool.slots.toList = .other :: slots := by
  refine (recognises_word.bind fun count => (recognises_readSlots (count - 1) false #[.other]).bind
    fun slots => .pure (⟨slots⟩ : ConstantPool)).congr fun bytes pool => ?_
  constructor
  · intro read
    rcases read with ⟨_, _, _, ⟨count, rfl, rfl⟩,
      ⟨_, _, _, ⟨constants, slots, rfl, readable, tabulates, same⟩, ⟨rfl, rfl⟩, rfl⟩, rfl⟩
    exact ⟨count, constants, slots, by rw [List.append_nil], readable, tabulates, same⟩
  · intro written
    rcases written with ⟨count, constants, slots, rfl, readable, tabulates, same⟩
    exact ⟨_, _, _, ⟨count, rfl, rfl⟩,
      ⟨pool.slots, _, [], ⟨constants, slots, rfl, readable, tabulates, same⟩, ⟨rfl, rfl⟩, rfl⟩,
      by rw [List.append_nil]⟩

section Resolution

variable {count : Nat} {constants : List (Constant CodePoints)} {slots : List Slot}
  {pool : ConstantPool}

/-- Slot 0 names nothing; the others are those of the constants. -/
theorem getElem?_pool_eq_some_iff (tabulates : Tabulates false count constants slots)
    (same : pool.slots.toList = .other :: slots) (index : Nat) {slot : Slot}
    (names : slot ≠ .other) :
    pool.slots[index]? = some slot ↔
      ∃ constant, At constants index constant ∧ constant.slot = slot := by
  rw [← Array.getElem?_toList, same]
  cases index with
  | zero =>
      rw [List.getElem?_cons_zero, Option.some.injEq]
      constructor
      · intro isOther
        exact absurd isOther.symm names
      · intro found
        obtain ⟨constant, ⟨before, after, _, position⟩, _⟩ := found
        omega
  | succ index =>
      rw [List.getElem?_cons_succ, tabulates.getElem?_eq_some_iff index names, Bool.toNat_false]
      constructor
      · intro found
        obtain ⟨before, constant, after, split, position, isSlot⟩ := found
        exact ⟨constant, ⟨before, after, split, by omega⟩, isSlot⟩
      · intro found
        obtain ⟨constant, ⟨before, after, split, position⟩, isSlot⟩ := found
        exact ⟨before, constant, after, split, by omega, isSlot⟩

theorem holdsText_eq (tabulates : Tabulates false count constants slots)
    (same : pool.slots.toList = .other :: slots) : HoldsText pool = TextAt constants := by
  funext index content
  unfold HoldsText TextAt
  rw [getElem?_pool_eq_some_iff tabulates same index (by simp)]
  simp only [slot_eq_text_iff, exists_eq_right]

theorem holdsClass_eq (tabulates : Tabulates false count constants slots)
    (same : pool.slots.toList = .other :: slots) : HoldsClass pool = ClassAt constants := by
  have classRefs (index nameIndex : Nat) : pool.slots[index]? = some (.classRef nameIndex) ↔
      ∃ constant, At constants index constant ∧ constant.slot = .classRef nameIndex :=
    getElem?_pool_eq_some_iff tabulates same index (by simp)
  funext index name
  unfold HoldsClass ClassAt
  rw [holdsText_eq tabulates same]
  apply propext
  constructor
  · intro holds
    obtain ⟨nameIndex, isClass, isText⟩ := holds
    obtain ⟨constant, found, isSlot⟩ := (classRefs index nameIndex).mp isClass
    obtain ⟨nameIndex, rfl, rfl⟩ := (slot_eq_classRef_iff _ _).mp isSlot
    exact ⟨nameIndex, found, isText⟩
  · intro holds
    obtain ⟨nameIndex, found, isText⟩ := holds
    exact ⟨nameIndex.toNat, (classRefs index _).mpr ⟨_, found, rfl⟩, isText⟩

end Resolution

end SurfaceDiff.ClassFile.Layout
