import SurfaceDiff.Report.Entry

/-!
Contract: where a comparison hands its entries, one at a time and in order.

Owns: the interface `Sink`, the sink that keeps all entries, and the state of the sinks that write.
Does not own: the sinks that render; they stand beside their formats.
-/

namespace SurfaceDiff

/-- What a report does to a state of type `σ`. The comparison never looks at the state. -/
structure Sink (σ : Type) where
  report : σ → Entry → σ

/-- The text that a sink has written so far. -/
abbrev Written := Array Text.CodePoint

/-- All entries reported so far, in the order of their reports. -/
structure Collected where
  entries : Array Entry := #[]
deriving DecidableEq, Repr

namespace Collected

def report (collected : Collected) (entry : Entry) : Collected :=
  ⟨collected.entries.push entry⟩

def sink : Sink Collected := ⟨report⟩

/-- The entries of one outcome, in the order of their reports. -/
def byOutcome (collected : Collected) (outcome : Outcome) : List Entry :=
  collected.entries.toList.filter fun entry => entry.outcome = outcome

end Collected

end SurfaceDiff
