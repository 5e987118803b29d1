/-!
Contract: fields of a zip archive: slices of the file and little-endian numbers.
-/

namespace SurfaceDiff.Zip

/-- The bytes from `offset` on, `size` of them or as many as the file has. -/
def slice (content : ByteArray) (offset size : Nat) : ByteArray :=
  content.extract (min offset content.size) (min (offset + size) content.size)

def bytesAt (content : ByteArray) (offset size : Nat) : List UInt8 :=
  (slice content offset size).data.toList

/-- The number that the bytes write, the least significant one first. -/
def littleEndian (bytes : List UInt8) : Nat :=
  bytes.foldr (fun byte value => byte.toNat + 0x100 * value) 0

/-- The number of `width` bytes that starts at `offset` of a record. -/
def field (bytes : List UInt8) (offset width : Nat) : Nat :=
  littleEndian ((bytes.drop offset).take width)

/-- The letters `PK` and the two numbers of a record's signature. -/
def signature (first second : UInt8) : List UInt8 :=
  [0x50, 0x4B, first, second]

end SurfaceDiff.Zip
