import SurfaceDiff.ClassFile.Cursor

/-!
Contract: the constant pool of a class file, as far as names need it.

Owns: the pool's slots, their reading, and the resolution of text and class references.

Slots are numbered from 1. A long or a double takes two slots, of which the second holds nothing;
neither that slot, nor slot 0, nor a slot beyond the count can be resolved.
-/

namespace SurfaceDiff.ClassFile

/-- What one slot holds; constants that name nothing are all alike. -/
inductive Slot where
  | text (points : Text.CodePoints)
  | classRef (nameIndex : Nat)
  | other
deriving DecidableEq

/-- The slots from number 0 on. -/
structure ConstantPool where
  slots : Array Slot

namespace ConstantPool

def text (pool : ConstantPool) (index : Nat) : Reader Text.CodePoints :=
  match pool.slots[index]? with
  | some (.text points) => return points
  | _ => .fail (.notText index)

/-- The name that a class entry refers to. -/
def className (pool : ConstantPool) (index : Nat) : Reader Text.CodePoints :=
  match pool.slots[index]? with
  | some (.classRef nameIndex) => pool.text nameIndex
  | _ => .fail (.notClass index)

/-- The text that the index read next refers to. -/
def readText (pool : ConstantPool) : Reader Text.CodePoints := do
  pool.text (← Reader.number 2)

/-- The name of the class that the index read next refers to. -/
def readClassName (pool : ConstantPool) : Reader Text.CodePoints := do
  pool.className (← Reader.number 2)

/-- How many bytes follow the tag of a constant that is neither a text nor a class. -/
def payloadSize? : Nat → Option Nat
  | 3 | 4 => some 4
  | 5 | 6 => some 8
  | 8 => some 2
  | 9 | 10 | 11 | 12 => some 4
  | 15 => some 3
  | 16 => some 2
  | 17 | 18 => some 4
  | 19 | 20 => some 2
  | _ => none

/-- Longs and doubles take two slots. -/
def IsWide (tag : Nat) : Prop := tag = 5 ∨ tag = 6

instance (tag : Nat) : Decidable (IsWide tag) := by
  unfold IsWide
  infer_instance

/-- Decodes the text at its place in the pool, used or not. -/
def readTextEntry : Reader Slot := do
  let bytes ← Reader.block (← Reader.number 2)
  match Text.ModifiedUtf8.decode bytes with
  | .ok points => return .text points
  | .error cause => .fail (.malformedText cause)

/-- Reads an entry, and whether it takes a second slot. -/
def readEntry : Reader (Slot × Bool) := do
  let offset ← Reader.offset
  let tag ← Reader.number 1
  if tag = 1 then
    return (← readTextEntry, false)
  else if tag = 7 then
    return (.classRef (← Reader.number 2), false)
  else
    match payloadSize? tag with
    | some size =>
      Reader.skip size
      return (.other, decide (IsWide tag))
    | none => .fail (.unknownTag tag offset)

/-- Fills slots up to the count; `second` says that the next one belongs to the last entry. -/
def readSlots : Nat → Bool → Array Slot → Reader (Array Slot)
  | 0, _, slots => return slots
  | count + 1, true, slots => readSlots count false (slots.push .other)
  | count + 1, false, slots => do
    let (slot, wide) ← readEntry
    readSlots count wide (slots.push slot)

/-- The count in the file is one more than the number of slots. -/
def read : Reader ConstantPool := do
  let count ← Reader.number 2
  return ⟨← readSlots (count - 1) false #[.other]⟩

end ConstantPool

end SurfaceDiff.ClassFile
