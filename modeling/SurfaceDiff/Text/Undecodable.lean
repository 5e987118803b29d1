import SurfaceDiff.Text.Hex

/-!
Contract: the report of bytes that stand for no character in their encoding.
-/

namespace SurfaceDiff.Text

/-- The first bytes that cannot be decoded: `count` of them from `offset` on, the first one `byte`. -/
structure Undecodable where
  encoding : String
  byte : UInt8
  offset : Nat
  count : Nat
  reason : String
deriving DecidableEq, Repr

namespace Undecodable

def message (cause : Undecodable) : String :=
  let place :=
    if cause.count = 1 then
      s!"byte 0x{hex 2 cause.byte.toNat} in position {cause.offset}"
    else
      s!"bytes in position {cause.offset}-{cause.offset + cause.count - 1}"
  s!"'{cause.encoding}' codec can't decode {place}: {cause.reason}"

/-- The first byte that is not good. -/
def find? (encoding reason : String) (isGood : UInt8 → Bool) (bytes : List UInt8) :
    Option Undecodable :=
  let offset := (bytes.takeWhile isGood).length
  (bytes.drop offset).head?.map fun byte => ⟨encoding, byte, offset, 1, reason⟩

end Undecodable

end SurfaceDiff.Text
