import SurfaceDiff.Rejection
import SurfaceDiff.Text.CodePoint

/-!
Contract: the API surface of one compiled archive, as packages of types of methods.

Owns: `Method`, `ClassDecl`, `Package`, `Surface` and the names derived from a class name.
Does not own: how a surface is read, grouped or compared.

Names are kept in the internal form of class files, with `/` between packages; the dotted forms
are derived from it.

The name of a class is checked for its length, and no text with a lone surrogate gets through that check.
All other texts are taken as they are.
-/

namespace SurfaceDiff

/-- A method of a class; `code` holds its instruction bytes and is absent without a body. -/
structure Method where
  name : Text.CodePoints
  descriptor : Text.CodePoints
  accessFlags : Int := 0
  code : Option (List UInt8) := none
deriving DecidableEq, Repr

def Method.hasBody (method : Method) : Bool :=
  method.code.isSome

/-- A class, interface, enum or annotation; its internal name is never empty. -/
structure ClassDecl where
  name : String
  accessFlags : Int := 0
  superName : Option Text.CodePoints := none
  methods : List Method := []
  name_ne_empty : name ≠ ""
deriving DecidableEq, Repr

namespace ClassDecl

def ofFields (name : String) (accessFlags : Int) (superName : Option Text.CodePoints)
    (methods : List Method) : Except Rejection ClassDecl :=
  if nonempty : name ≠ "" then
    .ok ⟨name, accessFlags, superName, methods, nonempty⟩
  else
    .error ⟨.classDecl, [⟨"name", .emptyText⟩]⟩

/-- The characters after the last `/`; nested classes keep their `$`. -/
def simpleName (decl : ClassDecl) : String :=
  String.ofList (decl.name.toList.reverse.takeWhile (· ≠ '/')).reverse

/-- The text with dots for slashes. -/
def dotted (characters : List Char) : String :=
  String.ofList (characters.map fun character => if character = '/' then '.' else character)

/-- What stands before the last `/`, dotted; empty for a name without one. -/
def packageName (decl : ClassDecl) : String :=
  dotted ((decl.name.toList.reverse.dropWhile (· ≠ '/')).drop 1).reverse

def qualifiedName (decl : ClassDecl) : String :=
  dotted decl.name.toList

/-- Bit 14 of the access flags, in two's complement for a negative number. -/
def isEnum (decl : ClassDecl) : Bool :=
  decl.accessFlags / 0x4000 % 2 = 1

end ClassDecl

structure Package where
  name : Text.CodePoints
  types : List ClassDecl := []
deriving DecidableEq, Repr

/-- All packages of one archive; `source` is the path it was read from. -/
structure Surface where
  source : Text.CodePoints := []
  packages : List Package := []
deriving DecidableEq, Repr

def Surface.typeCount (surface : Surface) : Nat :=
  (surface.packages.flatMap Package.types).length

end SurfaceDiff
