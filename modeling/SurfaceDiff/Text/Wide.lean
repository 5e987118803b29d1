import SurfaceDiff.Text.Undecodable

/-!
Contract: strict UTF-16 and UTF-32, in which a text is a list of numbers of two or four bytes.

Owns: the orders of bytes, both decoders, and the wording of their errors.
-/

namespace SurfaceDiff.Text

inductive ByteOrder where
  | littleEndian
  | bigEndian
deriving DecidableEq, Repr

namespace ByteOrder

/-- The number that some bytes are. -/
def value : ByteOrder → List UInt8 → Nat
  | bigEndian, bytes => bytes.foldl (fun value byte => value * 0x100 + byte.toNat) 0
  | littleEndian, bytes => bytes.foldr (fun byte value => value * 0x100 + byte.toNat) 0

def name : ByteOrder → String
  | littleEndian => "le"
  | bigEndian => "be"

/-- The byte order mark U+FEFF in so many bytes. -/
def mark (count : Nat) : ByteOrder → List UInt8
  | littleEndian => [0xFF, 0xFE] ++ List.replicate (count - 2) 0
  | bigEndian => List.replicate (count - 2) 0 ++ [0xFE, 0xFF]

end ByteOrder

def IsHighSurrogate (unit : Nat) : Prop := 0xD800 ≤ unit ∧ unit < 0xDC00

instance (unit : Nat) : Decidable (IsHighSurrogate unit) := by
  unfold IsHighSurrogate
  infer_instance

def IsLowSurrogate (unit : Nat) : Prop := 0xDC00 ≤ unit ∧ unit < 0xE000

instance (unit : Nat) : Decidable (IsLowSurrogate unit) := by
  unfold IsLowSurrogate
  infer_instance

/-- The character of two surrogates. -/
def pairedCharacter (high low : Nat) : Char :=
  Char.ofNat (0x10000 + (high - 0xD800) * 0x400 + (low - 0xDC00))

namespace Utf16

def name (order : ByteOrder) : String := "utf-16-" ++ order.name

/-- Reads character after character; `text` holds the earlier ones, the last one first. -/
def decodeAt (order : ByteOrder) (offset : Nat) (text : List Char) :
    List UInt8 → Except Undecodable (List Char)
  | [] => .ok text.reverse
  | [byte] => .error ⟨name order, byte, offset, 1, "truncated data"⟩
  | first :: second :: rest =>
    let unit := order.value [first, second]
    if IsHighSurrogate unit then
      match rest with
      | third :: fourth :: rest =>
        let low := order.value [third, fourth]
        if IsLowSurrogate low then
          decodeAt order (offset + 4) (pairedCharacter unit low :: text) rest
        else
          .error ⟨name order, first, offset, 2, "illegal UTF-16 surrogate"⟩
      | short => .error ⟨name order, first, offset, 2 + short.length, "unexpected end of data"⟩
    else if IsLowSurrogate unit then
      .error ⟨name order, first, offset, 2, "illegal encoding"⟩
    else
      decodeAt order (offset + 2) (Char.ofNat unit :: text) rest

/-- Reads the bytes from an offset on. -/
def decode (order : ByteOrder) (offset : Nat) (bytes : List UInt8) : Except Undecodable String :=
  (decodeAt order offset [] bytes).map String.ofList

end Utf16

namespace Utf32

def name (order : ByteOrder) : String := "utf-32-" ++ order.name

/-- Reads character after character; `text` holds the earlier ones, the last one first. -/
def decodeAt (order : ByteOrder) (offset : Nat) (text : List Char) :
    List UInt8 → Except Undecodable (List Char)
  | [] => .ok text.reverse
  | first :: second :: third :: fourth :: rest =>
    let value := order.value [first, second, third, fourth]
    if IsHighSurrogate value ∨ IsLowSurrogate value then
      .error ⟨name order, first, offset, 4,
        "code point in surrogate code point range(0xd800, 0xe000)"⟩
    else if 0x110000 ≤ value then
      .error ⟨name order, first, offset, 4, "code point not in range(0x110000)"⟩
    else
      decodeAt order (offset + 4) (Char.ofNat value :: text) rest
  | first :: short => .error ⟨name order, first, offset, 1 + short.length, "truncated data"⟩

/-- Reads the bytes from an offset on. -/
def decode (order : ByteOrder) (offset : Nat) (bytes : List UInt8) : Except Undecodable String :=
  (decodeAt order offset [] bytes).map String.ofList

end Utf32

end SurfaceDiff.Text
