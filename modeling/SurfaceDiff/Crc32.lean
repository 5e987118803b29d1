/-!
Contract: the CRC-32 checksum, with the reflected polynomial `0xEDB88320`.
-/

namespace SurfaceDiff.Crc32

def polynomial : UInt32 := 0xEDB88320

/-- Takes one bit of the remainder off. -/
def shift (remainder : UInt32) : UInt32 :=
  if remainder % 2 = 1 then polynomial ^^^ (remainder >>> 1) else remainder >>> 1

/-- The effect of one byte on an empty remainder. -/
def tableEntry (byte : Nat) : UInt32 :=
  (List.range 8).foldl (fun remainder _ => shift remainder) byte.toUInt32

def table : Array UInt32 :=
  ((List.range 256).map tableEntry).toArray

def update (remainder : UInt32) (byte : UInt8) : UInt32 :=
  table.getD ((remainder ^^^ byte.toUInt32) % 0x100).toNat 0 ^^^ (remainder >>> 8)

def checksum (bytes : ByteArray) : UInt32 :=
  bytes.foldl update 0xFFFFFFFF ^^^ 0xFFFFFFFF

end SurfaceDiff.Crc32
