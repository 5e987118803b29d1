/-!
Contract: names with values, in the order in which the names first appeared.

Owns: assignment, look-up, and the change to other names.
-/

namespace SurfaceDiff.Settings

/-- Each name once, with the value last assigned to it. -/
structure Assignments (α : Type) where
  pairs : List (String × α) := []

namespace Assignments

variable {α : Type}

/-- Replaces the value of a name in its place, or adds the name at the end. -/
def assign (assignments : Assignments α) (name : String) (value : α) : Assignments α :=
  if assignments.pairs.any fun (known, _) => known = name then
    ⟨assignments.pairs.map fun (known, old) => (known, if known = name then value else old)⟩
  else
    ⟨assignments.pairs ++ [(name, value)]⟩

def ofList (pairs : List (String × α)) : Assignments α :=
  pairs.foldl (fun assignments (name, value) => assignments.assign name value) {}

/-- The same values under other names; of names that become equal, the last one counts. -/
def renamed (assignments : Assignments α) (rename : String → String) : Assignments α :=
  ofList (assignments.pairs.map fun (name, value) => (rename name, value))

/-- The assignments of the values that are kept. -/
def filterValues (assignments : Assignments α) (keep : α → Bool) : Assignments α :=
  ⟨assignments.pairs.filter fun (_, value) => keep value⟩

def find? (assignments : Assignments α) (name : String) : Option α :=
  assignments.pairs.lookup name

end Assignments

end SurfaceDiff.Settings
