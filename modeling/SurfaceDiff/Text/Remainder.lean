/-!
Contract: what remains of a text while it is read from its start to its end.

Owns: `Remainder`, which knows the line at which it starts, and the ways to pass over characters.
-/

namespace SurfaceDiff.Text

/-- The characters that are still to be read, and the number of the line at which they start. -/
structure Remainder where
  line : Nat
  characters : List Char
deriving DecidableEq, Repr

namespace Remainder

def ofCharacters (characters : List Char) : Remainder := ⟨1, characters⟩

/-- What is left behind the characters that were passed. -/
def behind (remainder : Remainder) (passed left : List Char) : Remainder :=
  ⟨remainder.line + passed.count '\n', left⟩

def drop (remainder : Remainder) (count : Nat) : Remainder :=
  remainder.behind (remainder.characters.take count) (remainder.characters.drop count)

def takeWhile (remainder : Remainder) (accepts : Char → Bool) : List Char :=
  remainder.characters.takeWhile accepts

def dropWhile (remainder : Remainder) (accepts : Char → Bool) : Remainder :=
  remainder.behind (remainder.takeWhile accepts) (remainder.characters.dropWhile accepts)

/-- What is left behind the end of the line. -/
def dropLine (remainder : Remainder) : Remainder :=
  (remainder.dropWhile (· ≠ '\n')).drop 1

end Remainder

end SurfaceDiff.Text
