import SurfaceDiff.Text.CodePoint

/-!
Contract: the library that prints reports for the eye, and the streams that texts are written to.

Owns: what can be printed, as data; the interface `Terminal`; and the interface `Stream`.
Does not own: how anything is rendered.

What is printed is rendered as a whole, and its text is written at once. A stream that refuses the text
gets nothing of it.
-/

namespace SurfaceDiff

open Text

structure Column where
  heading : String
  alignsRight : Bool := false
deriving DecidableEq, Repr

/-- A table with a title; its cells are markup. -/
structure Table where
  title : String
  columns : List Column
  rows : List (List CodePoints)
deriving DecidableEq, Repr

/-- What can be printed. -/
inductive Print where
  /-- Lines given by their markup, which are broken at the width of the terminal or are not. -/
  | markup (text : CodePoints) (wraps : Bool)
  /-- A line as it is, of any length; brackets in it are no markup. -/
  | plain (text : CodePoints)
  | blankLine
  | table (table : Table)
deriving DecidableEq, Repr

structure Terminal where
  /-- Markup that shows a text as it is. -/
  escape : CodePoints → CodePoints
  /-- The text that is written for a print, with its line breaks. -/
  render : Print → CodePoints

/-- Markup in a style. -/
def Terminal.styled (style : String) (markup : CodePoints) : CodePoints :=
  .ofString ("[" ++ style ++ "]") ++ markup ++ .ofString ("[/" ++ style ++ "]")

/-- A stream for texts. It can refuse a text that its encoding has no place for, which is never one in
ASCII. -/
structure Stream where
  /-- Why the stream refuses a text, if it does. -/
  refusal? : CodePoints → Option String
  takes_ascii : ∀ text : CodePoints, (∀ point ∈ text, point.value < 0x80) → refusal? text = none

end SurfaceDiff
