import SurfaceDiff.Surface

/-!
Contract: the keys by which packages, types and methods of two surfaces are matched.

A package is known by its name, a type by its simple name within its package, and a method by its
name and descriptor, so that overloads stay apart.
-/

namespace SurfaceDiff

open Text

def Package.key (package : Package) : CodePoints :=
  package.name

def ClassDecl.key (decl : ClassDecl) : CodePoints :=
  .ofString decl.simpleName

def Method.keySeparator : CodePoints := .ofString " :: "

def Method.key (method : Method) : CodePoints :=
  method.name ++ keySeparator ++ method.descriptor

end SurfaceDiff
