import SurfaceDiff.Rejection
import SurfaceDiff.Report.Outcome
import SurfaceDiff.Text.CodePoint

/-!
Contract: the unit of a report, a list of items of one level with one outcome.
-/

namespace SurfaceDiff

/-- The items that were added, removed or changed at one level, such as the types of a package. -/
structure Entry where
  level : Text.CodePoints
  outcome : Outcome
  items : List Text.CodePoints
deriving DecidableEq, Repr

/-- An entry whose outcome is given by name. -/
def Entry.ofFields (level : Text.CodePoints) (outcomeName : String) (items : List Text.CodePoints) :
    Except Rejection Entry :=
  match Outcome.ofName outcomeName with
  | .ok outcome => .ok ⟨level, outcome, items⟩
  | .error _ => .error ⟨.reportEntry, [⟨"outcome", .notAnOutcome⟩]⟩

end SurfaceDiff
