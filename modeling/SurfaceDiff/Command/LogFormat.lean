import SurfaceDiff.Command.LogFormat.Value
import SurfaceDiff.Log

/-!
Contract: log lines in a format.

Owns: what a record puts into each field, and the filling in of a line.

A line is not written when it asks for what no record has, or for what is not known of it.
-/

namespace SurfaceDiff.Command.LogFormat

/-- A value that is not there. -/
def absent : Value := .ofSpelling (.ofString "None")

/-- A value that differs from run to run. -/
def unknown : Value := .ofSpelling ⟨[], false⟩

/-- The path of a file of the program, which starts at the root. -/
def unknownPath : Value := .spelled ⟨['/'], false⟩ ⟨['\'', '/'], false⟩

/-- The values of a record under their names. -/
def valuesOf (time : String) (record : Log.Record) : List (String × Value) := [
  ("name", .text record.logger),
  ("msg", .text record.template),
  ("args", .ofSpelling (.ofString (Log.Argument.listText record.arguments))),
  ("levelname", .text record.level.name),
  ("levelno", .number record.level.severity),
  ("pathname", unknownPath),
  ("filename", .text record.origin.fileName),
  ("module", .text record.origin.moduleName),
  ("exc_info", absent),
  ("exc_text", absent),
  ("stack_info", absent),
  ("lineno", .number record.origin.line),
  ("funcName", .text record.origin.function),
  ("created", unknown),
  ("msecs", unknown),
  ("relativeCreated", unknown),
  ("thread", unknown),
  ("threadName", .text "MainThread"),
  ("processName", .text "MainProcess"),
  ("process", unknown),
  ("message", .text record.message),
  ("asctime", .text time)]

/-- A name with its value, as in the spelling of a record. -/
def itemSpelling (item : String × Value) : Spelling :=
  (Spelling.ofString (Text.Quoted.encodeString item.fst ++ ": ")).append item.snd.quoted

/-- The spelling of a record as a whole, between braces. -/
def spellingOf (values : List (String × Value)) : Spelling :=
  let items := (values.map itemSpelling).intersperse (.ofString ", ")
  ((items.foldl Spelling.append ⟨['\x7b'], true⟩).append ⟨['\x7d'], true⟩)

/-- The value under a name, or the record as a whole. -/
def valueOf? (values : List (String × Value)) : Option String → Option Value
  | some name => values.lookup name
  | none => some (.ofSpelling (spellingOf values))

/-- No line is this long. -/
def lengthLimit : Nat := 0x80000000

def fill? (values : List (String × Value)) (field : Field) : Option (List Char) := do
  let value ← valueOf? values field.name
  let shown ← show? ('#' ∈ field.flags) field.precision value field.conversion
  let width := field.width.getD 0
  if width < lengthLimit then some (pad field.flags width shown) else none

def fillPiece? (values : List (String × Value)) : Piece → Option (List Char)
  | .plain character => some [character]
  | .field field => fill? values field

/-- The line of a record, or `none` when the format asks for what is not there. -/
def line? (format : String) (time : String) (record : Log.Record) : Option String := do
  let parts ← (← pieces? format).mapM (fillPiece? (valuesOf time record))
  return String.ofList (parts.flatten ++ ['\n'])

end SurfaceDiff.Command.LogFormat
