import SurfaceDiff.Terminal
import SurfaceDiff.Terminal.Plain.Columns
import SurfaceDiff.Terminal.Plain.Markup
import SurfaceDiff.Text.Hex

/-!
Contract: a terminal without colours and emoji names, so wide that no line is broken, and the streams
that go with it.

Owns: the texts of its lines and tables, and the streams of UTF-8 and of texts kept in memory.

Each column of a table is as wide as its widest cell.
-/

namespace SurfaceDiff.Terminal.Plain

open Text

def lineBreak : CodePoints := .ofString "\n"

/-- Lines as the terminal shows them. -/
def lines (text : CodePoints) : CodePoints :=
  Columns.layOut text ++ lineBreak

/-- The width of the text in a column, whose cells stand at `index` in their rows. -/
def width (rows : List (List CodePoints)) (heading : String) (index : Nat) : Nat :=
  rows.foldl (fun width row => max width (row.getD index []).length) heading.length

/-- The cells of a row, with a blank on either side, between vertical rules. -/
def row (rule : String) (cells : List CodePoints) : CodePoints :=
  .ofString rule ++
    cells.flatMap (fun cell =>
      [Columns.blank] ++ cell ++ [Columns.blank] ++ CodePoints.ofString rule) ++
    lineBreak

/-- A horizontal rule with its left end, its crossings and its right end. -/
def rule (widths : List Nat) (line : Char) (left crossing right : String) : CodePoints :=
  let across := widths.map fun width => List.replicate (width + 2) (CodePoint.ofChar line)
  .ofString left ++ (CodePoints.ofString crossing).intercalate across ++ .ofString right ++ lineBreak

def table (table : Table) : CodePoints :=
  let rows := table.rows.map fun row => row.map Markup.shown
  let widths := table.columns.zipIdx.map fun (column, index) => width rows column.heading index
  let whole := widths.foldl (fun whole width => whole + width + 3) 1
  let cells (texts : List CodePoints) :=
    (table.columns.zip (widths.zip texts)).map fun (column, width, text) =>
      Columns.pad column.alignsRight width text
  let headings := table.columns.map fun column => CodePoints.ofString column.heading
  Columns.centre whole (.ofString table.title) ++ lineBreak ++
    rule widths '━' "┏" "┳" "┓" ++ row "┃" (cells headings) ++ rule widths '━' "┡" "╇" "┩" ++
    rows.flatMap (fun texts => row "│" (cells texts)) ++ rule widths '─' "└" "┴" "┘"

def render : Print → CodePoints
  | .markup text _ => lines (Markup.shown text)
  | .plain text => lines text
  | .blankLine => lineBreak
  | .table content => table content

end Plain

/-- The plain terminal. -/
def plain : Terminal where
  escape := Plain.Markup.escape
  render := Plain.render

end Terminal

namespace Stream

open Text

/-- A stream that keeps texts as they are. -/
def memory : Stream where
  refusal? := fun _ => none
  takes_ascii := fun _ _ => rfl

/-- The surrogates have no form in UTF-8. -/
def isEncodable (point : CodePoint) : Bool :=
  !decide (0xD800 ≤ point.value ∧ point.value ≤ 0xDFFF)

/-- What is said of the first run of surrogates in a text, if there is one. -/
def surrogateMessage? (text : CodePoints) : Option String :=
  let start := (text.takeWhile isEncodable).length
  let run := (text.dropWhile isEncodable).takeWhile fun point => !isEncodable point
  let message (place : String) :=
    s!"'utf-8' codec can't encode {place}: surrogates not allowed"
  match run with
  | [] => none
  | [point] => some (message s!"character '\\u{hex 4 point.value}' in position {start}")
  | _ => some (message s!"characters in position {start}-{start + run.length - 1}")

theorem isEncodable_of_lt {point : CodePoint} (low : point.value < 0xD800) :
    isEncodable point = true := by
  have outside : ¬(0xD800 ≤ point.value ∧ point.value ≤ 0xDFFF) := by omega
  simp [isEncodable, outside]

theorem surrogateMessage?_eq_none {text : CodePoints}
    (encodable : ∀ point ∈ text, isEncodable point = true) : surrogateMessage? text = none := by
  have nothing : text.dropWhile isEncodable = [] := by
    induction text with
    | nil => rfl
    | cons point rest inductionHypothesis =>
        rw [List.dropWhile_cons_of_pos (encodable point List.mem_cons_self)]
        exact inductionHypothesis fun other member => encodable other (List.mem_cons_of_mem _ member)
  simp [surrogateMessage?, nothing]

/-- A stream that writes its texts in UTF-8. -/
def utf8 : Stream where
  refusal? := surrogateMessage?
  takes_ascii := by
    intro text isAscii
    apply surrogateMessage?_eq_none
    intro point member
    apply isEncodable_of_lt
    have low := isAscii point member
    omega

end Stream

end SurfaceDiff
