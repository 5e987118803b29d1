import SurfaceDiff.Files.Path

/-!
Contract: what a path leads to.

Owns: `Found`, the answer that a look-up gives; `Contents`, all that lies below a directory; and the
refusals of the system.
Does not own: any look-up.

The system can refuse to look at something, or to read it, at any time and for reasons of its own.
-/

namespace SurfaceDiff.Files

/-- What the system says when it refuses something. -/
structure Refusal where
  message : String
deriving DecidableEq, Repr

/-- Why there are no bytes of a file. -/
inductive MemberFault where
  /-- The file cannot even be looked at. -/
  | unreachable (refusal : Refusal)
  | unreadable (refusal : Refusal)
deriving DecidableEq, Repr

/-- A file below a directory, by the components of its path from there. -/
structure Member where
  components : List String
  content : Except MemberFault ByteArray

/-- A directory below a directory, and what the system says if it refuses to search it. -/
structure Directory where
  components : List String
  refusal : Option Refusal := none

/-- All that lies below a directory, which can itself be among the directories. A directory comes before
those inside it; one that the program has no right to search looks empty. -/
structure Contents where
  directories : List Directory := []
  members : List Member := []

/-- What a path leads to; a directory comes with all that lies below it. -/
inductive Found where
  | missing
  | nameTooLong
  /-- What is there cannot be looked at. -/
  | unreachable (refusal : Refusal)
  | file (content : Except Refusal ByteArray)
  | directory (contents : Contents)

end SurfaceDiff.Files
