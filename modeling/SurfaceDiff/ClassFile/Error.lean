import SurfaceDiff.Rejection
import SurfaceDiff.Text.Hex
import SurfaceDiff.Text.ModifiedUtf8

/-!
Contract: why bytes do not decode as a class file.

Owns: the causes and their wording.

A `FormatError` is about the bytes; a `Rejection` arises when well-formed bytes name the class in a
way that no declaration can hold.
-/

namespace SurfaceDiff.ClassFile

inductive FormatError where
  | badMagic
  | truncatedNumber (offset : Nat)
  | truncatedBlock (size offset : Nat)
  | malformedText (cause : Text.ModifiedUtf8.Malformed)
  | unknownTag (tag offset : Nat)
  | notText (index : Nat)
  | notClass (index : Nat)
deriving DecidableEq, Repr

def FormatError.message : FormatError → String
  | .badMagic => "Not a class file (bad magic number)"
  | .truncatedNumber offset => s!"Truncated class file at offset {offset}"
  | .truncatedBlock size offset => s!"Truncated class file: need {size} bytes at offset {offset}"
  | .malformedText cause =>
    s!"Malformed modified UTF-8 byte 0x{Text.hex 2 cause.byte.toNat} at offset {cause.offset}"
  | .unknownTag tag offset => s!"Unknown constant pool tag {tag} at offset {offset}"
  | .notText index => s!"Constant pool index {index} is not a Utf8 entry"
  | .notClass index => s!"Constant pool index {index} is not a Class entry"

inductive Error where
  | format (cause : FormatError)
  | rejected (cause : Rejection)
deriving DecidableEq, Repr

end SurfaceDiff.ClassFile
