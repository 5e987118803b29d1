import SurfaceDiff.Report.Sink
import SurfaceDiff.Report.Summary
import SurfaceDiff.Text.Hex

/-!
Contract: reports as lines of JSON, one object a line.

Owns: the ASCII form of strings, the two kinds of line, and the sink that writes them.

Only printable ASCII stands in a line. Other characters are escaped by their UTF-16 units, so no
line holds a line break of its own. Members are ordered by name.
-/

namespace SurfaceDiff.Report.Json

open Text

def escapeUnit (unit : Nat) : List Char :=
  '\\' :: 'u' :: hexDigits 4 unit

/-- One unit, or the two of a surrogate pair. -/
def escapeByUnits (value : Nat) : List Char :=
  if value < 0x10000 then
    escapeUnit value
  else
    escapeUnit (0xD800 + (value - 0x10000) / 0x400) ++
      escapeUnit (0xDC00 + (value - 0x10000) % 0x400)

def escapeCharacter (character : Char) : List Char :=
  if character = '"' then ['\\', '"']
  else if character = '\\' then ['\\', '\\']
  else if character = '\n' then ['\\', 'n']
  else if character = '\r' then ['\\', 'r']
  else if character = '\t' then ['\\', 't']
  else if character = '\x08' then ['\\', 'b']
  else if character = '\x0C' then ['\\', 'f']
  else if ' ' ≤ character ∧ character ≤ '~' then [character]
  else escapeByUnits character.toNat

def escape (point : CodePoint) : List Char :=
  match point.toChar? with
  | some character => escapeCharacter character
  | none => escapeUnit point.value

/-- A string between double quotes. -/
def text (points : CodePoints) : String :=
  String.ofList ('"' :: points.flatMap escape ++ ['"'])

def string (value : String) : String :=
  text (.ofString value)

def array (items : List String) : String :=
  "[" ++ ", ".intercalate items ++ "]"

def object (members : List (String × String)) : String :=
  "\x7b" ++ ", ".intercalate (members.map fun (name, value) => string name ++ ": " ++ value) ++ "\x7d"

/-- The line of an entry, with its line break. -/
def entryLine (entry : Entry) : String :=
  object [
    ("items", array (entry.items.map text)),
    ("level", text entry.level),
    ("outcome", string entry.outcome.name)
  ] ++ "\n"

/-- The closing line: the counters under one name. -/
def summaryLine (summary : Summary) : String :=
  object [("summary", object [
    ("added", toString summary.added),
    ("changed", toString summary.changed),
    ("entries", toString summary.entries),
    ("methods_compared", toString summary.methodsCompared),
    ("packages_compared", toString summary.packagesCompared),
    ("removed", toString summary.removed),
    ("types_compared", toString summary.typesCompared)
  ])] ++ "\n"

/-- Appends the line of each entry to the text written so far. -/
def sink : Sink Written where
  report written entry := written ++ CodePoints.ofString (entryLine entry)

end SurfaceDiff.Report.Json
