/-!
Contract: lower-case hexadecimal digits of a number, at a fixed width.
-/

namespace SurfaceDiff.Text

def hexDigit (value : Nat) : Char :=
  if value < 10 then Char.ofNat (0x30 + value) else Char.ofNat (0x57 + value)

/-- The last `width` hexadecimal digits of `value`, the most significant one first. -/
def hexDigits : Nat → Nat → List Char
  | 0, _ => []
  | width + 1, value => hexDigit (value >>> (4 * width) % 16) :: hexDigits width value

def hex (width value : Nat) : String :=
  String.ofList (hexDigits width value)

end SurfaceDiff.Text
