/-!
Contract: sets of code points given by the points at which membership changes.

Owns: the type `Runs` and its membership test.
Does not own: any particular set; the tables that use this type own theirs.
-/

namespace SurfaceDiff.Text

/-- A set of numbers: outside below the first bound, then inside and outside in turn. -/
structure Runs where
  bounds : List Nat

namespace Runs

/-- Walks over the bounds up to `value`; `inside` says which side the walk is on. -/
def containsFrom (value : Nat) (inside : Bool) : List Nat → Bool
  | [] => inside
  | bound :: rest => if value < bound then inside else containsFrom value (!inside) rest

def contains (runs : Runs) (value : Nat) : Bool :=
  containsFrom value false runs.bounds

end Runs

end SurfaceDiff.Text
