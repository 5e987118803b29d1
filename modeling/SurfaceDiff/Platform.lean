/-!
Contract: the library that archives are read with, as far as it differs from one installation to another.

Owns: the interface `Platform`, the exceptions that the library can raise, and what is documented of it.
Does not own: the format of archives, which is the same everywhere.

The decompressors of two methods of compression can be missing, and what they make of damaged data is their
own affair. Old releases stumble over entries without a name, and walk down a tree of directories by
recursion.
-/

namespace SurfaceDiff

/-- The kinds of exceptions, as far as a load tells them apart. -/
inductive RaisedKind where
  | corruptStream
  | endOfFile
  | notImplemented
  | runtime
  | notAnArchive
  | system
  | other (name : String)
deriving DecidableEq, Repr

/-- An exception of the library, with its text. -/
structure Raised where
  kind : RaisedKind
  message : String
deriving DecidableEq, Repr

/-- Decodes compressed data. The flag tells whether the data is known to end there. -/
abbrev Decompressor := ByteArray → Except Raised (ByteArray × Bool)

structure Platform where
  /-- The decompressor of bzip2, if the library was built with one. -/
  bzip2 : Option Decompressor := none
  /-- The decompressor of LZMA, if the library was built with one. -/
  lzma : Option Decompressor := none
  /-- What is raised when the library is asked whether an entry of this name is a directory. -/
  nameFault? : String → Option Raised := fun _ => none
  /-- How many directories deep a walk can go, if there is a limit. -/
  deepestWalk : Option Nat := none

/-- As documented, whether a name is that of a directory shows at its end, whatever the name. -/
def Platform.TellsDirectories (platform : Platform) : Prop :=
  ∀ name, platform.nameFault? name = none

end SurfaceDiff
