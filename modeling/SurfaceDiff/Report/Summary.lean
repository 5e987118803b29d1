import SurfaceDiff.Report.Entry

/-!
Contract: the counters of a comparison.

Owns: `Summary` and the tally of entries.
Does not own: the counters of compared packages, types and methods, which the comparison sets.
-/

namespace SurfaceDiff

/-- What was compared, how many entries were reported, and how many items by outcome. -/
structure Summary where
  packagesCompared : Int := 0
  typesCompared : Int := 0
  methodsCompared : Int := 0
  entries : Int := 0
  added : Int := 0
  removed : Int := 0
  changed : Int := 0
deriving DecidableEq, Repr

namespace Summary

def HasDifferences (summary : Summary) : Prop := 0 < summary.entries

instance (summary : Summary) : Decidable summary.HasDifferences := by
  unfold HasDifferences
  infer_instance

/-- Counts one more entry and `count` items of its outcome. -/
def record (summary : Summary) (outcome : Outcome) (count : Int) : Summary :=
  let counted := { summary with entries := summary.entries + 1 }
  match outcome with
  | .added => { counted with added := summary.added + count }
  | .removed => { counted with removed := summary.removed + count }
  | .changed => { counted with changed := summary.changed + count }

end Summary

end SurfaceDiff
