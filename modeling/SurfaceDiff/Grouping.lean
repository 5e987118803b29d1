import SurfaceDiff.Surface
import Std.Data.TreeSet

/-!
Contract: classes sorted into packages.

Packages come in the order of their names, and the types of a package in the order of their
internal names; types of one name keep the order in which they were given.
-/

namespace SurfaceDiff

/-- The package names that occur, each once and in order. -/
def packageNames (classes : List ClassDecl) : List String :=
  (Std.TreeSet.ofList (classes.map ClassDecl.packageName)).toList

def sortByName (classes : List ClassDecl) : List ClassDecl :=
  classes.mergeSort fun first second => first.name ≤ second.name

def groupByPackage (classes : List ClassDecl) : List Package :=
  (packageNames classes).map fun name =>
    ⟨.ofString name, sortByName (classes.filter fun decl => decl.packageName = name)⟩

end SurfaceDiff
