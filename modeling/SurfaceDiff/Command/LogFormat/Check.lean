import SurfaceDiff.Text.WordCharacter

/-!
Contract: which formats of log lines are accepted: those that hold a named field.

Owns: the shape of a named field, and the refusal of other formats.
Does not own: what a field makes of a record. A field of this shape can still ask for what no record
has, and other fields can stand beside it.

A named field is a percent sign, a name in parentheses, flags, a width, a precision and the letter of
a conversion. Numbers can be written in the digits of any script.
-/

namespace SurfaceDiff.Command.LogFormat

def flagCharacters : List Char := ['#', '0', '+', ' ', '-']

/-- The letters of conversions and their capitals; the letters `i` and `s` stand also without a dot
and in their long form. -/
def conversionCharacters : List Char :=
  "diouxefgcrsa%DIOUXEFGCRSAİıſ".toList

/-- The text behind a number or a star, if one is there. -/
def skipSize? : List Char → Option (List Char)
  | '*' :: rest => some rest
  | text =>
    if text.head?.any Text.isDecimalDigit then some (text.dropWhile Text.isDecimalDigit) else none

/-- The text behind a precision, which a point precedes. -/
def skipPrecision? : List Char → Option (List Char)
  | '.' :: rest => skipSize? rest
  | _ => none

/-- Whether a width, a precision and a conversion follow; the first two can be missing. -/
def endsField (text : List Char) : Bool :=
  let text := (skipSize? text).getD text
  let text := (skipPrecision? text).getD text
  text.head?.any (· ∈ conversionCharacters)

/-- Whether a named field is what follows a percent sign. -/
def startsField : List Char → Bool
  | '(' :: rest =>
    rest.head?.any Text.isWordCharacter &&
      match rest.dropWhile Text.isWordCharacter with
      | ')' :: rest => endsField (rest.dropWhile (· ∈ flagCharacters))
      | _ => false
  | _ => false

/-- Whether a named field starts anywhere in the text. -/
def hasField : List Char → Bool
  | [] => false
  | character :: rest => (character == '%' && startsField rest) || hasField rest

/-- A format that is refused. -/
structure Refused where
  text : String
deriving DecidableEq, Repr

def Refused.message (refused : Refused) : String :=
  "Invalid format '" ++ refused.text ++ "' for '%' style"

def messageOnly : String := "%(message)s"

/-- The format that a setting stands for; an empty one stands for the message alone. -/
def effective (text : String) : String :=
  if text = "" then messageOnly else text

def check (text : String) : Except Refused String :=
  if hasField (effective text).toList then .ok (effective text) else .error ⟨text⟩

end SurfaceDiff.Command.LogFormat
