import SurfaceDiff.Text.Hex
import SurfaceDiff.Text.Printable

/-!
Contract: a text between quotes on one line, as messages show names.

Single quotes are used unless the text has a single quote and no double quote. The quote, the
backslash, line breaks and tabs are escaped by a backslash; every other character that does not
print is given by its number.
-/

namespace SurfaceDiff.Text.Quoted

/-- The quote that needs no escape, if there is one. -/
def quote (text : CodePoints) : Char :=
  if .ofChar '\'' ∈ text ∧ .ofChar '"' ∉ text then '"' else '\''

def escapeByNumber (value : Nat) : List Char :=
  if value < 0x100 then '\\' :: 'x' :: hexDigits 2 value
  else if value < 0x10000 then '\\' :: 'u' :: hexDigits 4 value
  else '\\' :: 'U' :: hexDigits 8 value

def escapeCharacter (quote character : Char) : List Char :=
  if character = quote ∨ character = '\\' then ['\\', character]
  else if character = '\n' then ['\\', 'n']
  else if character = '\r' then ['\\', 'r']
  else if character = '\t' then ['\\', 't']
  else if IsPrintable (.ofChar character) then [character]
  else escapeByNumber character.toNat

/-- A lone surrogate never prints. -/
def escape (quote : Char) (point : CodePoint) : List Char :=
  match point.toChar? with
  | some character => escapeCharacter quote character
  | none => escapeByNumber point.value

def encode (text : CodePoints) : String :=
  let mark := quote text
  String.ofList (mark :: text.flatMap (escape mark) ++ [mark])

def encodeString (text : String) : String :=
  encode (.ofString text)

end SurfaceDiff.Text.Quoted
