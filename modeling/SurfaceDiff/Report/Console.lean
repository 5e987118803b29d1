import SurfaceDiff.Report.Sink
import SurfaceDiff.Terminal

/-!
Contract: reports for the eye: a headline for each entry, its items indented below it, and a blank
line.

Owns: what is printed of an entry, the sink that prints it, and where that sink stops.

A print that the stream refuses ends the report: nothing is printed behind it.
-/

namespace SurfaceDiff.Report.Console

open Text

/-- The markup of a headline: the outcome and the level in the colour of the outcome. -/
def headline (terminal : Terminal) (entry : Entry) : CodePoints :=
  Terminal.styled entry.outcome.colour
    (.ofString (entry.outcome.label ++ " ") ++ terminal.escape entry.level ++ .ofString ":")

/-- An item behind a tab, as it is. -/
def itemLine (item : CodePoints) : Print :=
  .plain (.ofChar '\t' :: item)

/-- What is printed of an entry. -/
def prints (terminal : Terminal) (entry : Entry) : List Print :=
  .markup (headline terminal entry) false :: entry.items.map itemLine ++ [.blankLine]

/-- A report under way: what is written of it, how many entries are complete, and why it stopped, if it
did. -/
structure Progress where
  written : Written := #[]
  complete : Nat := 0
  refusal : Option String := none

namespace Progress

/-- Prints, unless a print was refused before. -/
def print (terminal : Terminal) (stream : Stream) (progress : Progress) (print : Print) : Progress :=
  match progress.refusal with
  | some _ => progress
  | none =>
    let text := terminal.render print
    match stream.refusal? text with
    | some reason => { progress with refusal := some reason }
    | none => { progress with written := progress.written ++ text }

def report (terminal : Terminal) (stream : Stream) (progress : Progress) (entry : Entry) : Progress :=
  let progress := (prints terminal entry).foldl (print terminal stream) progress
  match progress.refusal with
  | some _ => progress
  | none => { progress with complete := progress.complete + 1 }

end Progress

/-- Prints each entry as it comes. -/
def sink (terminal : Terminal) (stream : Stream) : Sink Progress :=
  ⟨Progress.report terminal stream⟩

end SurfaceDiff.Report.Console
