import SurfaceDiff.Text.CodePoint

/-!
Contract: text with style tags in square brackets, and what a plain terminal shows of it.

Owns: which brackets are tags, the escaping of a text that must not hold any, and the text shown.
Does not own: styles and the names of emoji; a plain terminal knows neither.

A tag opens with a bracket and a small letter, `#`, `/` or `@`, and ends at the next closing bracket
if no other bracket opens before it. Of backslashes right before a tag two show as one, and an odd
one makes the tag plain text. A backslash right before any other opening bracket is not shown.
-/

namespace SurfaceDiff.Terminal.Plain.Markup

open Text

def opening : CodePoint := .ofChar '['

def closing : CodePoint := .ofChar ']'

def backslash : CodePoint := .ofChar '\\'

/-- A character, or a tag together with the backslashes right before it. -/
inductive Piece where
  | plain (point : CodePoint)
  | tag (backslashes : Nat) (inside : CodePoints)
deriving DecidableEq, Repr

/-- Whether the inside of a tag can start with the character. -/
def startsTag (point : CodePoint) : Bool :=
  match point.toChar? with
  | some character => character.isLower || character = '#' || character = '/' || character = '@'
  | none => false

/-- The inside of a tag, if the text behind an opening bracket goes on as one. -/
def tagInside? (text : CodePoints) : Option CodePoints :=
  let inside := text.takeWhile fun point => point ≠ opening && point ≠ closing
  if inside.head?.any startsTag ∧ text[inside.length]? = some closing then some inside else none

/-- The pieces of a text. What a tag holds is no piece of its own: no bracket opens in it, so that it
is plain up to its closing bracket. -/
def pieces : CodePoints → List Piece
  | [] => []
  | point :: rest =>
    if point = opening then
      match tagInside? rest with
      | some inside => .tag 0 inside :: (pieces rest).drop (inside.length + 1)
      | none => .plain point :: pieces rest
    else if point = backslash then
      match pieces rest with
      | .tag backslashes inside :: more => .tag (backslashes + 1) inside :: more
      | more => .plain point :: more
    else
      .plain point :: pieces rest

def backslashes (count : Nat) : CodePoints :=
  List.replicate count backslash

def tagText (inside : CodePoints) : CodePoints :=
  opening :: inside ++ [closing]

/-- The piece with backslashes enough to show it as it is. -/
def Piece.escaped : Piece → CodePoints
  | plain point => [point]
  | tag count inside => backslashes (2 * count + 1) ++ tagText inside

/-- Doubles a single backslash at the end. More of them stay, and can escape a tag behind them. -/
def closeEnd (text : CodePoints) : CodePoints :=
  if (text.reverse.takeWhile (· = backslash)).length = 1 then text ++ [backslash] else text

/-- The text without tags of its own, to be put between others. -/
def escape (text : CodePoints) : CodePoints :=
  closeEnd ((pieces text).flatMap Piece.escaped)

/-- What is shown of a piece that stands by itself. -/
def Piece.shown : Piece → CodePoints
  | plain point => [point]
  | tag count inside => backslashes (count / 2) ++ if count % 2 = 1 then tagText inside else []

def shownPieces : List Piece → CodePoints
  | [] => []
  | piece :: rest =>
    if piece = .plain backslash ∧ rest.head? = some (.plain opening) then shownPieces rest
    else piece.shown ++ shownPieces rest

/-- The text that markup shows. -/
def shown (markup : CodePoints) : CodePoints :=
  shownPieces (pieces markup)

end SurfaceDiff.Terminal.Plain.Markup
