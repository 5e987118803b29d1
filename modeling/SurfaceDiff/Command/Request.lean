/-!
Contract: what the arguments of the command ask for.

Owns: the options of a comparison, and the interface `Parser` of the library that reads them.
Does not own: the reading itself, and what is said about wrong arguments.
-/

namespace SurfaceDiff.Command

structure Options where
  base : String
  target : String
  noChanged : Bool := false
  json : Bool := false
  failOnDiff : Bool := false
  verbose : Bool := false
deriving DecidableEq, Repr

/-- What an argument list asks for. -/
inductive Request where
  | diff (options : Options)
  /-- There is nothing to do but to write these texts, for help or about a misuse. -/
  | ended (code : Nat) (stdout stderr : String)
deriving DecidableEq, Repr

abbrev Parser := List String → Request

end SurfaceDiff.Command
