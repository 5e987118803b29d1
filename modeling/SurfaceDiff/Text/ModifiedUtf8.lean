import SurfaceDiff.Text.CodePoint

/-!
Contract: the modified UTF-8 of class files, in which a 16-bit unit takes one, two or three
bytes, NUL may be written on two bytes, and a supplementary character is a surrogate pair.

Owns: `decode` and the place of the first malformed byte.
Does not own: how a text length is framed in a class file.

Continuation bytes are not checked: only their low six bits count.
-/

namespace SurfaceDiff.Text.ModifiedUtf8

/-- The byte at which no unit can be read, and its offset. -/
structure Malformed where
  byte : UInt8
  offset : Nat
deriving DecidableEq, Repr

def oneByteUnit (first : UInt8) : CodePoint where
  value := first.toNat % 0x80
  value_le := by omega

def twoByteUnit (first second : UInt8) : CodePoint where
  value := first.toNat % 0x20 * 0x40 + second.toNat % 0x40
  value_le := by omega

def threeByteUnit (first second third : UInt8) : CodePoint where
  value := first.toNat % 0x10 * 0x1000 + second.toNat % 0x40 * 0x40 + third.toNat % 0x40
  value_le := by omega

/-- Reads unit after unit; `offset` is where the remaining bytes start. -/
def decodeUnits (offset : Nat) (units : Array CodePoint) :
    List UInt8 → Except Malformed (Array CodePoint)
  | [] => .ok units
  | first :: rest =>
    if first < 0x80 then
      decodeUnits (offset + 1) (units.push (oneByteUnit first)) rest
    else if 0xC0 ≤ first ∧ first < 0xE0 then
      match rest with
      | second :: rest =>
        decodeUnits (offset + 2) (units.push (twoByteUnit first second)) rest
      | [] => .error ⟨first, offset⟩
    else if 0xE0 ≤ first ∧ first < 0xF0 then
      match rest with
      | second :: third :: rest =>
        decodeUnits (offset + 3) (units.push (threeByteUnit first second third)) rest
      | _ => .error ⟨first, offset⟩
    else
      .error ⟨first, offset⟩

/-- The code points that the bytes denote; surrogates that form no pair stay as they are. -/
def decode (bytes : List UInt8) : Except Malformed CodePoints :=
  (decodeUnits 0 #[] bytes).map fun units => CodePoints.joinPairs units.toList

end SurfaceDiff.Text.ModifiedUtf8
