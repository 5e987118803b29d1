import Mathlib.Data.List.Forall2
import SurfaceDiff.ClassFile.Reader
import SurfaceDiff.Proofs.ClassFile.Number

/-!
Contract: a class file as a structure, the bytes that write it, and what it says of its class.

Owns: `Layout` with its parts, the serialisation of each part, the numbering of the pool's slots, and
the contents that a layout denotes.
Does not own: any reader; nothing here depends on how bytes are read.

The texts of the pool have a type of their own. A layout over code points is a class file as it is
meant, one over bytes a class file as it is written, for a text can be written in several ways.
-/

namespace SurfaceDiff.ClassFile

open Text

namespace Layout

/-! ## Constants -/

/-- The constants that name nothing by themselves. -/
inductive Kind where
  | integer
  | float
  | long
  | double
  | string
  | fieldRef
  | methodRef
  | interfaceMethodRef
  | nameAndType
  | methodHandle
  | methodType
  | dynamic
  | invokeDynamic
  | moduleRef
  | packageRef
deriving DecidableEq

namespace Kind

def tag : Kind → Nat
  | integer => 3
  | float => 4
  | long => 5
  | double => 6
  | string => 8
  | fieldRef => 9
  | methodRef => 10
  | interfaceMethodRef => 11
  | nameAndType => 12
  | methodHandle => 15
  | methodType => 16
  | dynamic => 17
  | invokeDynamic => 18
  | moduleRef => 19
  | packageRef => 20

/-- The number of bytes behind the tag. -/
def size : Kind → Nat
  | integer | float => 4
  | long | double => 8
  | fieldRef | methodRef | interfaceMethodRef | nameAndType | dynamic | invokeDynamic => 4
  | string | methodType | moduleRef | packageRef => 2
  | methodHandle => 3

end Kind

/-- An entry of the pool; its payload has the size of its kind. -/
inductive Constant (τ : Type) where
  | text (content : τ)
  | classRef (nameIndex : UInt16)
  | other (kind : Kind) (payload : List UInt8) (sized : payload.length = kind.size)

namespace Constant

variable {σ τ : Type}

/-- The same constant with its text in another form. -/
def map (form : σ → τ) : Constant σ → Constant τ
  | text content => text (form content)
  | classRef nameIndex => classRef nameIndex
  | other kind payload sized => other kind payload sized

def tag : Constant τ → Nat
  | text _ => 1
  | classRef _ => 7
  | other kind _ _ => kind.tag

/-- A long or a double takes two slots. -/
def isWide : Constant τ → Bool
  | other .long _ _ | other .double _ _ => true
  | _ => false

def slotCount (constant : Constant τ) : Nat :=
  if constant.isWide then 2 else 1

theorem isWide_map (form : σ → τ) (constant : Constant σ) :
    (constant.map form).isWide = constant.isWide := by
  rcases constant with _ | _ | ⟨kind, _, _⟩
  · rfl
  · rfl
  · cases kind <;> rfl

theorem slotCount_map (form : σ → τ) (constant : Constant σ) :
    (constant.map form).slotCount = constant.slotCount := by
  unfold slotCount
  rw [isWide_map]

/-- What follows the tag. -/
def body : Constant (List UInt8) → List UInt8
  | text content => u2 content.length ++ content
  | classRef nameIndex => u2 nameIndex.toNat
  | other _ payload _ => payload

def bytes (constant : Constant (List UInt8)) : List UInt8 :=
  u1 constant.tag ++ constant.body

end Constant

/-- The number of slots that constants take together. -/
def totalSlots {τ : Type} : List (Constant τ) → Nat
  | [] => 0
  | constant :: rest => constant.slotCount + totalSlots rest

theorem totalSlots_map {σ τ : Type} (form : σ → τ) (constants : List (Constant σ)) :
    totalSlots (constants.map (Constant.map form)) = totalSlots constants := by
  induction constants with
  | nil => rfl
  | cons constant rest inductionHypothesis =>
      rw [List.map_cons, totalSlots, totalSlots, Constant.slotCount_map, inductionHypothesis]

/-! ## Resolution

Slots are numbered from 1, and an index names a constant only by the first of its slots. -/

def At {τ : Type} (constants : List (Constant τ)) (index : Nat) (constant : Constant τ) : Prop :=
  ∃ before after, constants = before ++ constant :: after ∧ index = 1 + totalSlots before

def TextAt {τ : Type} (constants : List (Constant τ)) (index : Nat) (content : τ) : Prop :=
  At constants index (.text content)

def ClassAt {τ : Type} (constants : List (Constant τ)) (index : Nat) (name : τ) : Prop :=
  ∃ nameIndex, At constants index (.classRef nameIndex) ∧ TextAt constants nameIndex.toNat name

/-! ## Fields, methods and their attributes -/

structure Attribute where
  nameIndex : UInt16
  payload : List UInt8
  payload_fits : payload.length < 0x100000000

def Attribute.bytes (item : Attribute) : List UInt8 :=
  u2 item.nameIndex.toNat ++ u4 item.payload.length ++ item.payload

/-- A field or a method. -/
structure Member where
  accessFlags : UInt16
  nameIndex : UInt16
  descriptorIndex : UInt16
  attributes : List Attribute
  attributes_fit : attributes.length < 0x10000

def Member.bytes (member : Member) : List UInt8 :=
  u2 member.accessFlags.toNat ++ u2 member.nameIndex.toNat ++ u2 member.descriptorIndex.toNat ++
    (u2 member.attributes.length ++ member.attributes.flatMap Attribute.bytes)

/-- A payload that holds instructions, behind the two stack limits and their length. -/
def HoldsCode (payload code : List UInt8) : Prop :=
  ∃ (maxStack maxLocals : UInt16) (rest : List UInt8), code.length < 0x100000000 ∧
    payload = u2 maxStack.toNat ++ u2 maxLocals.toNat ++ u4 code.length ++ code ++ rest

/-- The instructions of the first attribute named `Code`; `texts` says which names there are. -/
inductive CodeOf (texts : Nat → CodePoints → Prop) :
    List Attribute → Option (List UInt8) → Prop where
  | absent : CodeOf texts [] none
  | other {item : Attribute} {rest : List Attribute} {name : CodePoints}
    {code : Option (List UInt8)} (named : texts item.nameIndex.toNat name)
    (different : name ≠ .ofString "Code") (later : CodeOf texts rest code) :
    CodeOf texts (item :: rest) code
  | first {item : Attribute} {rest : List Attribute} {code : List UInt8}
    (named : texts item.nameIndex.toNat (.ofString "Code"))
    (holds : HoldsCode item.payload code) :
    CodeOf texts (item :: rest) (some code)

structure DenotesMethod (texts : Nat → CodePoints → Prop) (member : Member) (method : Method) :
    Prop where
  name : texts member.nameIndex.toNat method.name
  descriptor : texts member.descriptorIndex.toNat method.descriptor
  accessFlags : method.accessFlags = member.accessFlags.toNat
  attributeNames : ∀ item ∈ member.attributes, ∃ name, texts item.nameIndex.toNat name
  code : CodeOf texts member.attributes method.code

/-- Index 0 stands for no superclass. -/
inductive SuperOf (classes : Nat → CodePoints → Prop) : Nat → Option CodePoints → Prop where
  | none : SuperOf classes 0 none
  | some {index : Nat} {name : CodePoints} (present : index ≠ 0) (named : classes index name) :
    SuperOf classes index (some name)

end Layout

/-! ## Class files -/

open Layout

/-- A class file whose texts are of type `τ`. Its number of pool slots stands in it as it is
written; that it agrees with the constants is a condition of its own. -/
structure Layout (τ : Type) where
  minorVersion : UInt16
  majorVersion : UInt16
  poolCount : UInt16
  constants : List (Constant τ)
  accessFlags : UInt16
  thisIndex : UInt16
  superIndex : UInt16
  interfaces : List UInt16
  interfaces_fit : interfaces.length < 0x10000
  fields : List Member
  fields_fit : fields.length < 0x10000
  methods : List Member
  methods_fit : methods.length < 0x10000

namespace Layout

variable {σ τ : Type}

def map (form : σ → τ) (file : Layout σ) : Layout τ :=
  { file with constants := file.constants.map (Constant.map form) }

def poolBytes (file : Layout (List UInt8)) : List UInt8 :=
  u2 file.poolCount.toNat ++ file.constants.flatMap Constant.bytes

/-- The interfaces, the fields and the methods, each behind their number. -/
def memberBytes (file : Layout τ) : List UInt8 :=
  (u2 file.interfaces.length ++ file.interfaces.flatMap fun index => u2 index.toNat) ++
    (u2 file.fields.length ++ file.fields.flatMap Member.bytes) ++
    (u2 file.methods.length ++ file.methods.flatMap Member.bytes)

/-- All that follows the magic number. -/
def body (file : Layout (List UInt8)) : List UInt8 :=
  u2 file.minorVersion.toNat ++ u2 file.majorVersion.toNat ++ file.poolBytes ++
    u2 file.accessFlags.toNat ++ u2 file.thisIndex.toNat ++ u2 file.superIndex.toNat ++
    file.memberBytes

/-- The bytes of a class file, the most significant byte of each number first. -/
def bytes (file : Layout (List UInt8)) : List UInt8 :=
  [0xCA, 0xFE, 0xBA, 0xBE] ++ file.body

/-- What a class file says of its class, every index resolved by the numbering of the slots. -/
structure Denotes (file : Layout CodePoints) (contents : Contents) : Prop where
  name : ClassAt file.constants file.thisIndex.toNat contents.name
  accessFlags : contents.accessFlags = file.accessFlags.toNat
  superName : SuperOf (ClassAt file.constants) file.superIndex.toNat contents.superName
  methods : List.Forall₂ (DenotesMethod (TextAt file.constants)) file.methods contents.methods

end Layout

end SurfaceDiff.ClassFile
