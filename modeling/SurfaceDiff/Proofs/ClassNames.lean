import Mathlib.Data.List.Basic
import SurfaceDiff.Identity

/-!
Contract: how far the names derived from a class name tell it.

Owns: the class names that are determined by their package name and simple name.

Two classes share both names if they differ in dots for slashes, as `a.b/C` and `a/b/C`, or in a slash
at the start, as `/C` and `C`. There is no other way.
-/

namespace SurfaceDiff

namespace ClassDecl

/-- No dot occurs in the name, and there is no slash in front. -/
def HasSlashedName (decl : ClassDecl) : Prop :=
  '.' ∉ decl.name.toList ∧ decl.name.toList.head? ≠ some '/'

theorem dotted_inj {first second : List Char} (isFirst : '.' ∉ first) (isSecond : '.' ∉ second)
    (same : dotted first = dotted second) : first = second := by
  let undo (character : Char) := if character = '.' then '/' else character
  have undone : ∀ {text : List Char}, '.' ∉ text → (dotted text).toList.map undo = text := by
    intro text plain
    unfold dotted
    rw [String.toList_ofList, List.map_map]
    refine (List.map_congr_left fun character member => ?_).trans (List.map_id _)
    by_cases slash : character = '/'
    · simp [undo, slash]
    · simp [undo, slash, ne_of_mem_of_not_mem member plain]
  rw [← undone isFirst, same, undone isSecond]

theorem dotted_ne_empty {text : List Char} (some : text ≠ []) : dotted text ≠ "" := by
  intro empty
  unfold dotted at empty
  rw [← String.toList_inj, String.toList_ofList] at empty
  exact some (List.map_eq_nil_iff.mp empty)

/-- A name is its simple name, or ends in a slash and its simple name. -/
theorem name_split (decl : ClassDecl) :
    (decl.packageName = "" ∧ decl.name = decl.simpleName) ∨
      ∃ path, decl.packageName = dotted path ∧
        decl.name.toList = path ++ '/' :: decl.simpleName.toList := by
  have whole : (decl.name.toList.reverse.dropWhile (· ≠ '/')).reverse ++
      (decl.name.toList.reverse.takeWhile (· ≠ '/')).reverse = decl.name.toList := by
    rw [← List.reverse_append, List.takeWhile_append_dropWhile, List.reverse_reverse]
  have simple : decl.simpleName.toList =
      (decl.name.toList.reverse.takeWhile (· ≠ '/')).reverse := by
    unfold simpleName
    rw [String.toList_ofList]
  have stop := List.head?_dropWhile_not (fun character => decide (character ≠ '/'))
    decl.name.toList.reverse
  unfold packageName
  rw [← simple] at whole
  cases before : decl.name.toList.reverse.dropWhile (· ≠ '/') with
  | nil =>
      left
      rw [before, List.reverse_nil, List.nil_append] at whole
      exact ⟨rfl, (String.toList_inj.mp whole).symm⟩
  | cons slash rest =>
      right
      rw [before] at whole stop
      obtain rfl : slash = '/' := by simpa using stop
      refine ⟨rest.reverse, rfl, ?_⟩
      rw [← whole]
      simp

/-- The name of a class in a package that has a name. -/
theorem packageName_ne_empty {decl : ClassDecl} (slashed : decl.HasSlashedName) {path : List Char}
    (isPackage : decl.packageName = dotted path)
    (whole : decl.name.toList = path ++ '/' :: decl.simpleName.toList) : decl.packageName ≠ "" := by
  rw [isPackage]
  refine dotted_ne_empty fun empty => slashed.2 ?_
  rw [whole, empty]
  rfl

theorem name_eq_of_parts {first second : ClassDecl} (isFirst : first.HasSlashedName)
    (isSecond : second.HasSlashedName) (samePackage : first.packageName = second.packageName)
    (sameSimple : first.simpleName = second.simpleName) : first.name = second.name := by
  rcases first.name_split with ⟨firstPackage, firstName⟩ | ⟨firstPath, firstPackage, firstName⟩
  · rcases second.name_split with ⟨_, secondName⟩ | ⟨secondPath, secondPackage, secondName⟩
    · rw [firstName, secondName, sameSimple]
    · exact absurd (samePackage.symm.trans firstPackage)
        (packageName_ne_empty isSecond secondPackage secondName)
  · rcases second.name_split with ⟨secondPackage, _⟩ | ⟨secondPath, secondPackage, secondName⟩
    · exact absurd (samePackage.trans secondPackage)
        (packageName_ne_empty isFirst firstPackage firstName)
    · have plainFirst : '.' ∉ firstPath := fun dot => isFirst.1 (by rw [firstName]; simp [dot])
      have plainSecond : '.' ∉ secondPath := fun dot => isSecond.1 (by rw [secondName]; simp [dot])
      have samePath : firstPath = secondPath :=
        dotted_inj plainFirst plainSecond (by rw [← firstPackage, samePackage, secondPackage])
      rw [← String.toList_inj, firstName, secondName, samePath, sameSimple]

end ClassDecl

end SurfaceDiff
