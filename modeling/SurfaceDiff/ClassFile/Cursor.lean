import SurfaceDiff.ClassFile.Error

/-!
Contract: reading big-endian numbers and blocks of bytes from the front of a byte string.

Owns: `Cursor`, the monad `Reader` and its primitives `number` and `block`.
Does not own: the meaning of what is read.

A read that the remaining bytes cannot serve fails at the offset where it started and takes
nothing.
-/

namespace SurfaceDiff.ClassFile

/-- The bytes still to be read, and how many were read before them. -/
structure Cursor where
  rest : List UInt8
  offset : Nat

abbrev Reader (α : Type) := StateT Cursor (Except Error) α

/-- The number that the bytes write, the most significant one first. -/
def bigEndian (bytes : List UInt8) : Nat :=
  bytes.foldl (fun value byte => value * 0x100 + byte.toNat) 0

/-- Splits off the next `count` bytes, if there are as many. -/
def Cursor.take? (count : Nat) (cursor : Cursor) : Option (List UInt8 × Cursor) :=
  let chunk := cursor.rest.take count
  if chunk.length = count then
    some (chunk, ⟨cursor.rest.drop count, cursor.offset + count⟩)
  else
    none

namespace Reader

def fail {α : Type} (cause : FormatError) : Reader α :=
  throw (.format cause)

def offset : Reader Nat := do
  return (← get).offset

/-- Reads an unsigned number of `width` bytes. -/
def number (width : Nat) : Reader Nat := fun cursor =>
  match cursor.take? width with
  | some (chunk, next) => .ok (bigEndian chunk, next)
  | none => .error (.format (.truncatedNumber cursor.offset))

def block (size : Nat) : Reader (List UInt8) := fun cursor =>
  match cursor.take? size with
  | some (chunk, next) => .ok (chunk, next)
  | none => .error (.format (.truncatedBlock size cursor.offset))

def skip (size : Nat) : Reader Unit := do
  let _ ← block size

/-- Reads `count` items one after the other and adds them to `items`. -/
def timesOnto {α : Type} (reader : Reader α) : Nat → Array α → Reader (Array α)
  | 0, items => return items
  | count + 1, items => do timesOnto reader count (items.push (← reader))

def times {α : Type} (count : Nat) (reader : Reader α) : Reader (List α) := do
  return (← timesOnto reader count #[]).toList

/-- Reads as many items as the number in front of them says. -/
def counted {α : Type} (reader : Reader α) : Reader (List α) := do
  times (← number 2) reader

/-- Runs a reader over a byte string of its own; offsets count from the string's start. -/
def run {α : Type} (reader : Reader α) (bytes : List UInt8) : Except Error α :=
  (reader ⟨bytes, 0⟩).map Prod.fst

end Reader

end SurfaceDiff.ClassFile
