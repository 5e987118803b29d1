import SurfaceDiff.Report.Summary
import SurfaceDiff.Surface
import SurfaceDiff.Terminal

/-!
Contract: the closing summary of a comparison: what was compared, and how many items changed.

Owns: the header, the table of item counts by outcome and the line of counters, as they are printed.
-/

namespace SurfaceDiff.Report.SummaryTable

open Text

/-- Outcomes in the order of their rows, each with the number of its items. -/
def counts (summary : Summary) : List (Outcome × Int) :=
  [(.removed, summary.removed), (.added, summary.added), (.changed, summary.changed)]

def table (summary : Summary) : Table where
  title := "API Differences"
  columns := [{ heading := "Outcome" }, { heading := "Items", alignsRight := true }]
  rows := (counts summary).map fun (outcome, count) => [outcome.markup, .ofString (toString count)]

/-- The markup of a surface's path and its number of types. -/
def sourceMarkup (terminal : Terminal) (surface : Surface) : CodePoints :=
  terminal.escape surface.source ++ .ofString s!" ({surface.typeCount} types)"

/-- The paths of both surfaces with their numbers of types. -/
def header (terminal : Terminal) (left right : Surface) : CodePoints :=
  Terminal.styled "bold" (.ofString "Base:") ++ .ofString "   " ++ sourceMarkup terminal left ++
    .ofString "\n" ++
    Terminal.styled "bold" (.ofString "Target:") ++ .ofString " " ++ sourceMarkup terminal right

def counters (summary : Summary) : CodePoints :=
  Terminal.styled "dim" (.ofString (
    s!"{summary.packagesCompared} packages, {summary.typesCompared} types, " ++
      s!"{summary.methodsCompared} methods compared"))

def prints (terminal : Terminal) (summary : Summary) (left right : Surface) : List Print :=
  .markup (header terminal left right) true ::
    if summary.HasDifferences then [.table (table summary), .markup (counters summary) true]
    else [.markup (Terminal.styled "green" (.ofString "No differences found.")) true]

def text (terminal : Terminal) (summary : Summary) (left right : Surface) : CodePoints :=
  (prints terminal summary left right).flatMap terminal.render

end SurfaceDiff.Report.SummaryTable
