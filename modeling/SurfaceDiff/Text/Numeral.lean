/-!
Contract: numerals of whole numbers: in a base, with decimal places, and with an exponent.

Owns: the rounding to a number of digits, where a tie goes to the even neighbour.
-/

namespace SurfaceDiff.Text.Numeral

def inBase (base value : Nat) : List Char := Nat.toDigits base value

/-- The quotient nearest to the fraction; a tie goes to the even one. -/
def roundDiv (value divisor : Nat) : Nat :=
  let quotient := value / divisor
  let twice := 2 * (value % divisor)
  if twice < divisor ∨ twice = divisor ∧ quotient % 2 = 0 then quotient else quotient + 1

/-- The leading digits of a number, and the power of ten of the first of them. -/
structure Scaled where
  digits : List Char
  exponent : Nat
deriving DecidableEq, Repr

/-- A number in so many digits. -/
def Scaled.ofNat (count value : Nat) : Scaled :=
  let digits := inBase 10 value
  if digits.length ≤ count then
    ⟨digits ++ List.replicate (count - digits.length) '0', digits.length - 1⟩
  else
    let rounded := inBase 10 (roundDiv value (Nat.pow 10 (digits.length - count)))
    ⟨rounded.take count, digits.length - 1 + (rounded.length - count)⟩

/-- Both sides of the decimal point; without decimals the point is left out, unless `always`. -/
def pointed (always : Bool) (whole decimals : List Char) : List Char :=
  if decimals = [] ∧ !always then whole else whole ++ '.' :: decimals

/-- With so many decimals, which are all zero. -/
def fixed (always : Bool) (places value : Nat) : List Char :=
  pointed always (inBase 10 value) (List.replicate places '0')

/-- The exponent in two digits at least. -/
def exponentMark (exponent : Nat) : List Char :=
  'e' :: '+' :: List.replicate (2 - (inBase 10 exponent).length) '0' ++ inBase 10 exponent

/-- One digit, so many decimals, and an exponent. -/
def scientific (always : Bool) (places value : Nat) : List Char :=
  let scaled := Scaled.ofNat (places + 1) value
  pointed always (scaled.digits.take 1) (scaled.digits.drop 1) ++ exponentMark scaled.exponent

def withoutZerosAtEnd (digits : List Char) : List Char :=
  (digits.reverse.dropWhile (· = '0')).reverse

/-- So many digits, with an exponent if they do not reach the point. Zeros at the end of the
decimals are left out, unless `always`. -/
def general (always : Bool) (count value : Nat) : List Char :=
  let count := max count 1
  let scaled := Scaled.ofNat count value
  let split (whole : Nat) :=
    let decimals := scaled.digits.drop whole
    pointed always (scaled.digits.take whole)
      (if always then decimals else withoutZerosAtEnd decimals)
  if scaled.exponent < count then split (scaled.exponent + 1)
  else split 1 ++ exponentMark scaled.exponent

end SurfaceDiff.Text.Numeral
