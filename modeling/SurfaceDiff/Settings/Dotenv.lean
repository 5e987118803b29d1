import SurfaceDiff.Text.Blank
import SurfaceDiff.Text.Remainder

/-!
Contract: files of settings with a `NAME=value` on each line.

Owns: the grammar of names, quoted and plain values and comments, and where a statement that does
not follow it starts; such a statement is passed over to the end of its line.

A name can be preceded by the word `export`. Quoted values can span lines and hold escapes; plain
values end at a comment. A name without a value is known, but has none.
-/

namespace SurfaceDiff.Settings.Dotenv

open Text (Remainder)

/-- A name with its value, if it has one. -/
structure Binding where
  name : String
  value : Option String
deriving DecidableEq, Repr

/-- A statement of a file; one that cannot be read is known by the line at which it starts. -/
inductive Statement where
  | binds (binding : Binding)
  | empty
  | unreadable (line : Nat)
deriving DecidableEq, Repr

/-- What a step reads, with what is left behind it; or what is left where it fails. -/
abbrev Step (α : Type) := Except Remainder (α × Remainder)

/-- The text with line feeds for all line breaks. -/
def withLineFeeds : List Char → List Char
  | '\r' :: '\n' :: rest => '\n' :: withLineFeeds rest
  | '\r' :: rest => '\n' :: withLineFeeds rest
  | character :: rest => character :: withLineFeeds rest
  | [] => []

def skipBlanks (text : Remainder) : Remainder :=
  text.dropWhile Text.isBlankInLine

/-- Skips the word `export` and the blanks behind it, of which there must be one. -/
def skipExport (text : Remainder) : Remainder :=
  let rest := text.drop "export".length
  if "export".toList.isPrefixOf text.characters ∧ rest.characters.head?.any Text.isBlankInLine then
    skipBlanks rest
  else
    text

/-- Whether the character can stand in a plain name. -/
def isNameCharacter (character : Char) : Bool :=
  character ≠ '=' && character ≠ '#' && !Text.isBlank character

/-- Reads a name that is not empty. -/
def readNonempty (text : Remainder) (accepts : Char → Bool) : Step String :=
  match text.takeWhile accepts with
  | [] => .error text
  | name => .ok (String.ofList name, text.dropWhile accepts)

/-- Reads a name behind its opening quote, and the closing one. -/
def readQuotedName (text : Remainder) : Except Remainder (String × Remainder) := do
  let (name, rest) ← readNonempty text (· ≠ '\'')
  if rest.characters = [] then .error text else .ok (name, rest.drop 1)

/-- Reads a name; a comment has none. -/
def readName (text : Remainder) : Step (Option String) :=
  match text.characters with
  | '#' :: _ => .ok (none, text)
  | '\'' :: _ => (readQuotedName (text.drop 1)).map fun (name, rest) => (some name, rest)
  | _ => (readNonempty text isNameCharacter).map fun (name, rest) => (some name, rest)

/-- Splits at the closing quote. A backslash keeps the character behind it from closing. -/
def splitAtQuote? (quote : Char) : List Char → Option (List Char × List Char)
  | [] => none
  | '\\' :: character :: rest =>
    (splitAtQuote? quote rest).map fun (content, behind) => ('\\' :: character :: content, behind)
  | character :: rest =>
    if character = quote then some ([], rest)
    else (splitAtQuote? quote rest).map fun (content, behind) => (character :: content, behind)

/-- The escapes in double quotes. -/
def doubleQuoteEscapes : List (Char × Char) :=
  [('\\', '\\'), ('\'', '\''), ('"', '"'), ('a', '\x07'), ('b', '\x08'), ('f', '\x0C'),
    ('n', '\n'), ('r', '\r'), ('t', '\t'), ('v', '\x0B')]

/-- The escapes in single quotes. -/
def singleQuoteEscapes : List (Char × Char) :=
  [('\\', '\\'), ('\'', '\'')]

/-- Replaces the escapes; other backslashes stand for themselves. -/
def unescape (escapes : List (Char × Char)) : List Char → List Char
  | '\\' :: character :: rest =>
    match escapes.lookup character with
    | some meaning => meaning :: unescape escapes rest
    | none => '\\' :: unescape escapes (character :: rest)
  | character :: rest => character :: unescape escapes rest
  | [] => []

/-- Reads a value behind its opening quote. -/
def readQuoted (quote : Char) (escapes : List (Char × Char)) (text : Remainder) : Step String :=
  match splitAtQuote? quote text.characters with
  | some (content, rest) =>
    .ok (String.ofList (unescape escapes content), text.behind content rest)
  | none => .error text

/-- Whether a text starts with a comment, which blanks can precede, and what stands before the first
comment in it. The blanks in front of a comment belong to it. -/
def splitAtComment : List Char → Bool × List Char
  | [] => (false, [])
  | character :: rest =>
    let (startsComment, before) := splitAtComment rest
    if Text.isBlank character then
      (startsComment, if startsComment then [] else character :: before)
    else
      (character = '#', character :: before)

/-- The value without a comment, which starts with blanks and a number sign. -/
def withoutComment (text : List Char) : List Char :=
  (splitAtComment text).snd

def withoutBlanksAtEnds (text : List Char) : List Char :=
  ((text.dropWhile Text.isBlank).reverse.dropWhile Text.isBlank).reverse

/-- Reads the rest of the line. -/
def readPlain (text : Remainder) : String × Remainder :=
  let line := text.takeWhile (· ≠ '\n')
  (String.ofList (withoutBlanksAtEnds (withoutComment line)), text.dropWhile (· ≠ '\n'))

def readValue (text : Remainder) : Step String :=
  let rest := skipBlanks text
  match rest.characters with
  | '\'' :: _ => readQuoted '\'' singleQuoteEscapes (rest.drop 1)
  | '"' :: _ => readQuoted '"' doubleQuoteEscapes (rest.drop 1)
  | _ => .ok (readPlain text)

/-- Reads a value behind an equals sign; without one there is no value. -/
def readAssigned (text : Remainder) : Step (Option String) :=
  match text.characters with
  | '=' :: _ => (readValue (text.drop 1)).map fun (value, rest) => (some value, rest)
  | _ => .ok (none, text)

def skipComment (text : Remainder) : Remainder :=
  let rest := skipBlanks text
  match rest.characters with
  | '#' :: _ => rest.dropWhile (· ≠ '\n')
  | _ => text

/-- Reads the end of a line, which has to follow. -/
def readLineEnd (text : Remainder) : Step Unit :=
  let rest := skipBlanks text
  match rest.characters with
  | [] => .ok ((), rest)
  | '\n' :: _ => .ok ((), rest.drop 1)
  | _ => .error text

/-- Reads one line, or more when a quoted value spans them. -/
def readLine (text : Remainder) : Except Remainder (Option Binding × Remainder) := do
  let (name, text) ← readName (skipExport text)
  let (value, text) ← readAssigned (skipBlanks text)
  let ((), text) ← readLineEnd (skipComment text)
  return (name.map fun name => ⟨name, value⟩, text)

/-- Reads a statement. One that fails is passed over from there on. -/
def readStatement (text : Remainder) : Statement × Remainder :=
  let start := text.dropWhile Text.isBlank
  if start.characters = [] then (.empty, start)
  else
    match readLine start with
    | .ok (some binding, rest) => (.binds binding, rest)
    | .ok (none, rest) => (.empty, rest)
    | .error rest => (.unreadable text.line, rest.dropLine)

/-- Reads all statements; `limit` bounds their number. -/
def readStatements : Nat → Remainder → List Statement
  | 0, _ => []
  | limit + 1, text =>
    if text.characters = [] then []
    else
      let (statement, rest) := readStatement text
      statement :: readStatements limit rest

/-- The text without the byte order mark at its start, if it has one. -/
def withoutMark : List Char → List Char
  | '\uFEFF' :: rest => rest
  | text => text

/-- The statements of a file in their order. -/
def parse (text : String) : List Statement :=
  let characters := withLineFeeds (withoutMark text.toList)
  readStatements characters.length (.ofCharacters characters)

/-- The binding of a statement, if it is one. -/
def Statement.binding? : Statement → Option Binding
  | binds binding => some binding
  | _ => none

/-- The line of a statement that cannot be read. -/
def Statement.unreadableLine? : Statement → Option Nat
  | unreadable line => some line
  | _ => none

end SurfaceDiff.Settings.Dotenv
