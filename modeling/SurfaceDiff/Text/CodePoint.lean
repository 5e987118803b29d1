/-!
Contract: code points, surrogates included, their order, and the strings that sequences of them
denote.

Owns: the types `CodePoint` and `CodePoints`, the surrogate classes, the joining of surrogate pairs.
Does not own: any byte encoding.

A class file can name things by sequences with lone surrogates, which no `String` holds.
`CodePoints.toString?` is the bridge: it succeeds exactly on the sequences without surrogates.
-/

namespace SurfaceDiff.Text

/-- A value up to `0x10FFFF`; the surrogates `0xD800 … 0xDFFF` count as values too. -/
@[ext]
structure CodePoint where
  value : Nat
  value_le : value ≤ 0x10FFFF
deriving DecidableEq, Repr

/-- A text in which lone surrogates can stand. -/
abbrev CodePoints := List CodePoint

namespace CodePoint

/-- Code points are ordered by value, and sequences of them letter by letter. -/
instance : Ord CodePoint where
  compare first second := compare first.value second.value

instance : Std.TransOrd CodePoint where
  eq_swap {first second} := Std.OrientedOrd.eq_swap (a := first.value) (b := second.value)
  isLE_trans {first second third} :=
    Std.TransOrd.isLE_trans (a := first.value) (b := second.value) (c := third.value)

instance : Std.LawfulEqOrd CodePoint where
  compare_self {point} := Std.ReflOrd.compare_self (a := point.value)
  eq_of_compare {first second} same :=
    CodePoint.ext (Std.LawfulEqOrd.eq_of_compare (a := first.value) (b := second.value) same)

def ofChar (character : Char) : CodePoint where
  value := character.toNat
  value_le := by
    have valid := character.valid
    simp only [UInt32.isValidChar, Nat.isValidChar] at valid
    simp only [Char.toNat]
    omega

/-- A surrogate of the first kind, which opens a pair. -/
def IsHigh (point : CodePoint) : Prop :=
  0xD800 ≤ point.value ∧ point.value ≤ 0xDBFF

/-- A surrogate of the second kind, which closes a pair. -/
def IsLow (point : CodePoint) : Prop :=
  0xDC00 ≤ point.value ∧ point.value ≤ 0xDFFF

instance (point : CodePoint) : Decidable point.IsHigh := by
  unfold IsHigh
  infer_instance

instance (point : CodePoint) : Decidable point.IsLow := by
  unfold IsLow
  infer_instance

/-- The character with this value, unless the value is a surrogate. -/
def toChar? (point : CodePoint) : Option Char :=
  if valid : point.value.isValidChar then
    some (Char.ofNatAux point.value valid)
  else
    none

/-- The supplementary code point of a surrogate pair. -/
def joined (high low : CodePoint) : CodePoint where
  value := 0x10000 + (high.value % 0x400) * 0x400 + low.value % 0x400
  value_le := by omega

end CodePoint

namespace CodePoints

def ofString (text : String) : CodePoints :=
  text.toList.map CodePoint.ofChar

/-- The string that a sequence denotes; `none` when a surrogate stands in it. -/
def toString? (points : CodePoints) : Option String :=
  (points.mapM CodePoint.toChar?).map String.ofList

/-- Puts a code point in front, joining it with the next one when the two are a pair. -/
def prependJoining (point : CodePoint) : CodePoints → CodePoints
  | [] => [point]
  | next :: rest =>
    if point.IsHigh ∧ next.IsLow then
      CodePoint.joined point next :: rest
    else
      point :: next :: rest

/-- Replaces each surrogate pair by its code point and keeps all else, lone surrogates too. -/
def joinPairs (points : CodePoints) : CodePoints :=
  points.foldr prependJoining []

end CodePoints

end SurfaceDiff.Text
