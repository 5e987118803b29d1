import SurfaceDiff.Report.Entry
import SurfaceDiff.Report.Summary
import SurfaceDiff.Text.CodePoint

/-!
Contract: a reader of JSON, and what a report in JSON says to it.

Owns: the values of JSON and their grammar, with blanks, all escapes, signs and nesting; the entry and
the counters that a line holds.
Does not own: anything that is written. No definition here looks at the writer.

Control characters cannot stand in a string, numbers have no leading zeros, and two escapes that make a
surrogate pair are one character. Only whole numbers are read.
-/

namespace SurfaceDiff.Report.Json

open Text

/-- A value of JSON; the members of an object are kept in their order. -/
inductive Value where
  | null
  | boolean (value : Bool)
  | number (value : Int)
  | string (points : CodePoints)
  | array (items : List Value)
  | object (members : List (CodePoints × Value))

/-- Reads from the front of a text and leaves what is behind. -/
abbrev Scanner (α : Type) := List Char → Option (α × List Char)

def isBlank (character : Char) : Bool :=
  character = ' ' || character = '\t' || character = '\n' || character = '\r'

def skipBlanks (text : List Char) : List Char :=
  text.dropWhile isBlank

/-! ## Strings -/

def hexValue? (digit : Char) : Option Nat :=
  if '0' ≤ digit ∧ digit ≤ '9' then some (digit.toNat - 0x30)
  else if 'a' ≤ digit ∧ digit ≤ 'f' then some (digit.toNat - 0x57)
  else if 'A' ≤ digit ∧ digit ≤ 'F' then some (digit.toNat - 0x37)
  else none

/-- The code point with this value, if there is one. -/
def pointOf? (value : Nat) : Option CodePoint :=
  if bound : value ≤ 0x10FFFF then some ⟨value, bound⟩ else none

/-- The escapes of one letter. -/
def letterEscapes : List (Char × Char) :=
  [('"', '"'), ('\\', '\\'), ('/', '/'), ('b', '\x08'), ('f', '\x0C'), ('n', '\n'), ('r', '\r'),
    ('t', '\t')]

/-- Reads a character of a string, or the unit of an escape. -/
def readPoint : Scanner CodePoint
  | '\\' :: 'u' :: first :: second :: third :: fourth :: rest => do
    let point ← pointOf? ((((← hexValue? first) * 16 + (← hexValue? second)) * 16 +
      (← hexValue? third)) * 16 + (← hexValue? fourth))
    return (point, rest)
  | '\\' :: letter :: rest => do
    return (.ofChar (← letterEscapes.lookup letter), rest)
  | character :: rest =>
    if character = '"' ∨ character = '\\' ∨ character < ' ' then none
    else some (.ofChar character, rest)
  | [] => none

/-- Reads up to the closing quote; `limit` bounds the number of steps. -/
def readPoints : Nat → Scanner CodePoints
  | 0, _ => none
  | _, '"' :: rest => some ([], rest)
  | limit + 1, text => do
    let (point, behind) ← readPoint text
    let (points, rest) ← readPoints limit behind
    return (point :: points, rest)

/-- Reads a string behind its opening quote. -/
def readString (text : List Char) : Option (CodePoints × List Char) :=
  (readPoints text.length text).map fun (points, rest) => (CodePoints.joinPairs points, rest)

/-! ## Numbers -/

def readNatural (text : List Char) : Option (Nat × List Char) :=
  let digits := text.takeWhile Char.isDigit
  let rest := text.dropWhile Char.isDigit
  if digits = [] ∨ digits.head? = some '0' ∧ digits ≠ ['0'] then none
  else if rest.head? ∈ [some '.', some 'e', some 'E'] then none
  else some (Nat.ofDigitChars 10 digits 0, rest)

def readNumber : Scanner Int
  | '-' :: text => (readNatural text).map fun (value, rest) => (-(value : Int), rest)
  | text => (readNatural text).map fun (value, rest) => ((value : Int), rest)

/-! ## Values -/

/-- Reads at least one item, and all up to the closing character; `limit` bounds their number. -/
def readItems {α : Type} (item : Scanner α) (close : Char) : Nat → Scanner (List α)
  | 0, _ => none
  | limit + 1, text => do
    let (first, behind) ← item text
    match skipBlanks behind with
    | ',' :: more =>
      let (others, rest) ← readItems item close limit more
      return (first :: others, rest)
    | next :: rest => if next = close then return ([first], rest) else none
    | [] => none

/-- Reads all items, behind the opening character. -/
def readList {α : Type} (item : Scanner α) (close : Char) (text : List Char) :
    Option (List α × List Char) :=
  match skipBlanks text with
  | next :: rest => if next = close then some ([], rest) else readItems item close text.length text
  | [] => none

/-- Reads a name, a colon and a value. -/
def readMember (value : Scanner Value) (text : List Char) :
    Option ((CodePoints × Value) × List Char) :=
  match skipBlanks text with
  | '"' :: text => do
    let (name, behind) ← readString text
    match skipBlanks behind with
    | ':' :: text =>
      let (value, rest) ← value text
      return ((name, value), rest)
    | _ => none
  | _ => none

/-- Reads a value that is not nested deeper than `depth`. -/
def readValue : Nat → Scanner Value
  | 0, _ => none
  | depth + 1, text =>
    match skipBlanks text with
    | '"' :: rest => (readString rest).map fun (points, rest) => (.string points, rest)
    | '[' :: rest =>
      (readList (readValue depth) ']' rest).map fun (items, rest) => (.array items, rest)
    | '{' :: rest =>
      (readList (readMember (readValue depth)) '}' rest).map fun (members, rest) =>
        (.object members, rest)
    | 'n' :: 'u' :: 'l' :: 'l' :: rest => some (.null, rest)
    | 't' :: 'r' :: 'u' :: 'e' :: rest => some (.boolean true, rest)
    | 'f' :: 'a' :: 'l' :: 's' :: 'e' :: rest => some (.boolean false, rest)
    | rest => (readNumber rest).map fun (number, rest) => (.number number, rest)

/-- The value of a whole text. -/
def decode? (text : List Char) : Option Value :=
  match readValue text.length text with
  | some (value, rest) => if skipBlanks rest = [] then some value else none
  | none => none

/-! ## Lines of a report -/

def Value.text? : Value → Option CodePoints
  | string points => some points
  | _ => none

def Value.number? : Value → Option Int
  | number value => some value
  | _ => none

/-- The values of an object that has just these members. -/
def Value.members? (names : List String) : Value → Option (List Value)
  | object members =>
    if members.map Prod.fst = names.map CodePoints.ofString then some (members.map Prod.snd)
    else none
  | _ => none

/-- The entry that a value stands for. -/
def Value.asEntry (value : Value) : Option Entry :=
  match value.members? ["items", "level", "outcome"] with
  | some [array items, string level, string outcome] => do
    let items ← items.mapM text?
    match Outcome.ofName (← outcome.toString?) with
    | .ok outcome => return ⟨level, outcome, items⟩
    | .error _ => none
  | _ => none

/-- The counters that a value stands for. -/
def Value.asSummary (value : Value) : Option Summary := do
  match ← value.members? ["summary"] with
  | [inner] =>
    let counters ← inner.members? ["added", "changed", "entries", "methods_compared",
      "packages_compared", "removed", "types_compared"]
    match ← counters.mapM number? with
    | [added, changed, entries, methodsCompared, packagesCompared, removed, typesCompared] =>
      return { packagesCompared, typesCompared, methodsCompared, entries, added, removed, changed }
    | _ => none
  | _ => none

/-- What a line of a text says as JSON. -/
def valueOfLine? (line : CodePoints) : Option Value :=
  line.toString?.bind fun text => decode? text.toList

def entryOfLine? (line : CodePoints) : Option Entry :=
  (valueOfLine? line).bind Value.asEntry

def summaryOfLine? (line : CodePoints) : Option Summary :=
  (valueOfLine? line).bind Value.asSummary

end SurfaceDiff.Report.Json
