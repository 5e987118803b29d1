import SurfaceDiff.Identity

/-!
Contract: when two methods of one key count as changed.

Owns: the names whose bodies are never compared, and the comparison of instruction bytes.

Bytes are compared as they stand. A body on one side only is a change, and an empty body differs
from an absent one.
-/

namespace SurfaceDiff

open Text

/-- Methods whose bodies vary for reasons unrelated to the API. -/
def volatileNames : List CodePoints :=
  ["<clinit>", "hashCode", "toString", "valueOf", "<init>"].map .ofString

def lambdaMarker : CodePoints := .ofString "lambda$"

def IsBodyExcluded (name : CodePoints) : Prop :=
  name ∈ volatileNames ∨ lambdaMarker <+: name

instance (name : CodePoints) : Decidable (IsBodyExcluded name) := by
  unfold IsBodyExcluded
  infer_instance

/-- Compiler scaffolding has a `$` in its name. -/
def Method.IsSynthetic (method : Method) : Prop := .ofChar '$' ∈ method.name

instance (method : Method) : Decidable method.IsSynthetic := by
  unfold Method.IsSynthetic
  infer_instance

def BodyChanged (left right : Method) : Prop := left.code ≠ right.code

instance (left right : Method) : Decidable (BodyChanged left right) := by
  unfold BodyChanged
  infer_instance

/-- The keys of the changed pairs; name and key are those of the left method. -/
def changedKeys (pairs : List (Method × Method)) : List CodePoints :=
  (pairs.filter fun (left, right) => ¬IsBodyExcluded left.name ∧ BodyChanged left right).map
    fun (left, _) => left.key

end SurfaceDiff
