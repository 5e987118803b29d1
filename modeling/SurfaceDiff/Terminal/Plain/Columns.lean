import SurfaceDiff.Terminal.Plain.CellWidth

/-!
Contract: text laid out in the columns of a plain terminal.

Owns: tab stops, the control characters that a terminal never shows, and padding to a width.
Does not own: wrapping; no line is ever broken.
-/

namespace SurfaceDiff.Terminal.Plain.Columns

open Text

def tabSize : Nat := 8

/-- Bell, backspace, vertical tab, form feed and carriage return. -/
def unshown : CodePoints := .ofString "\x07\x08\x0B\x0C\x0D"

def blank : CodePoint := .ofChar ' '

/-- A text laid out up to some point. -/
structure Layout where
  /-- What is laid out, the last character first. -/
  written : CodePoints := []
  /-- Where the last tab of the line led. -/
  column : Nat := 0
  /-- What the line holds behind that tab. -/
  measure : Measure := {}

namespace Layout

/-- A tab counts as a blank, which a joiner in front can take in; then it fills up to a tab stop. -/
def putTab (layout : Layout) : Layout :=
  let column := layout.column + (layout.measure.add blank).columns
  let filling := (tabSize - column % tabSize) % tabSize
  { written := List.replicate (filling + 1) blank ++ layout.written
    column := column + filling }

def put (layout : Layout) (point : CodePoint) : Layout :=
  if point = .ofChar '\n' then
    { written := point :: layout.written }
  else if point = .ofChar '\t' then
    layout.putTab
  else
    { layout with
      written := point :: layout.written
      measure := layout.measure.add point }

end Layout

/-- The text as shown: without the unshown controls, and with blanks for tabs. -/
def layOut (text : CodePoints) : CodePoints :=
  let shown := text.filter fun point => point ∉ unshown
  (shown.foldl Layout.put {}).written.reverse

def blanks (count : Nat) : CodePoints :=
  List.replicate count blank

/-- Fills a text up to a width, in front of it or behind it. -/
def pad (alignsRight : Bool) (width : Nat) (text : CodePoints) : CodePoints :=
  let filling := blanks (width - text.length)
  if alignsRight then filling ++ text else text ++ filling

/-- Between blanks; an odd blank goes to the right. -/
def centre (width : Nat) (text : CodePoints) : CodePoints :=
  let room := width - text.length
  blanks (room / 2) ++ text ++ blanks (room - room / 2)

end SurfaceDiff.Terminal.Plain.Columns
