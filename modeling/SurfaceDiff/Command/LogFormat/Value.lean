import SurfaceDiff.Command.LogFormat.Field
import SurfaceDiff.Text.Numeral
import SurfaceDiff.Text.Quoted

/-!
Contract: how a field shows a value.

Owns: what each conversion makes of texts and numbers, and the padding to a width.

Texts convert to texts only, numbers to texts and numbers. A precision cuts a text, is the least
number of digits of a whole number, and the number of decimals or digits of other numbers. Only
numbers show a sign and can be padded with zeros. Of a value that differs from run to run at most the
start is known; such a value is shown only as far as that.
-/

namespace SurfaceDiff.Command.LogFormat

/-- How a value is spelled, or the start of that. -/
structure Spelling where
  known : List Char
  isWhole : Bool := true
deriving DecidableEq, Repr

namespace Spelling

def ofString (text : String) : Spelling := ⟨text.toList, true⟩

/-- Nothing is known behind a spelling that is not whole. -/
def append (first second : Spelling) : Spelling :=
  if first.isWhole then ⟨first.known ++ second.known, second.isWhole⟩ else first

/-- Cuts the spelling to a length, if as much of it is known. -/
def cut? (precision : Option Nat) (spelling : Spelling) : Option (List Char) :=
  let length := precision.getD spelling.known.length
  if spelling.isWhole ∨ precision.isSome ∧ length ≤ spelling.known.length then
    some (spelling.known.take length)
  else
    none

end Spelling

/-- A value that a record has to show. One that is neither a text nor a number has only spellings. -/
inductive Value where
  | text (value : String)
  | number (value : Nat)
  | spelled (shown quoted : Spelling)
deriving DecidableEq, Repr

namespace Value

/-- A value with one spelling. -/
def ofSpelling (spelling : Spelling) : Value := spelled spelling spelling

def shown : Value → Spelling
  | text value => .ofString value
  | number value => .ofString (toString value)
  | spelled shown _ => shown

def quoted : Value → Spelling
  | text value => .ofString (Text.Quoted.encodeString value)
  | number value => .ofString (toString value)
  | spelled _ quoted => quoted

/-- The single character that the value is, or the number of. -/
def character? : Value → Option Char
  | text value =>
    match value.toList with
    | [character] => some character
    | _ => none
  | number value => if value.isValidChar then some (Char.ofNat value) else none
  | spelled .. => none

end Value

/-- A value as a conversion shows it, before it is padded. A number can have a marker of its base. -/
inductive Shown where
  | text (content : List Char)
  | number (marker digits : List Char)
deriving DecidableEq, Repr

/-- Characters beyond ASCII by their numbers. -/
def Spelling.inAscii (spelling : Spelling) : Spelling where
  known := spelling.known.flatMap fun character =>
    if character.toNat < 0x80 then [character] else Text.Quoted.escapeByNumber character.toNat
  isWhole := spelling.isWhole

def withDigits (precision : Option Nat) (digits : List Char) : List Char :=
  List.replicate (precision.getD 0 - digits.length) '0' ++ digits

/-- Small letters, or capitals instead. -/
def inCase (isCapital : Bool) (text : List Char) : List Char :=
  if isCapital then text.map Char.toUpper else text

def defaultPrecision : Nat := 6

/-- What a conversion makes of a number, if it is one to numbers. -/
def showNumber? (isAlternate : Bool) (precision : Option Nat) (value : Nat) :
    Conversion → Option Shown
  | .decimal => some (.number [] (withDigits precision (Text.Numeral.inBase 10 value)))
  | .octal =>
    some (.number (if isAlternate then ['0', 'o'] else [])
      (withDigits precision (Text.Numeral.inBase 8 value)))
  | .hexadecimal isCapital =>
    some (.number (inCase isCapital (if isAlternate then ['0', 'x'] else []))
      (inCase isCapital (withDigits precision (Text.Numeral.inBase 16 value))))
  | .fixed =>
    some (.number [] (Text.Numeral.fixed isAlternate (precision.getD defaultPrecision) value))
  | .scientific isCapital =>
    some (.number [] (inCase isCapital
      (Text.Numeral.scientific isAlternate (precision.getD defaultPrecision) value)))
  | .general isCapital =>
    some (.number [] (inCase isCapital
      (Text.Numeral.general isAlternate (precision.getD defaultPrecision) value)))
  | _ => none

/-- What a conversion makes of a value, if it accepts it. -/
def show? (isAlternate : Bool) (precision : Option Nat) (value : Value) :
    Conversion → Option Shown
  | .text => (value.shown.cut? precision).map .text
  | .quoted => (value.quoted.cut? precision).map .text
  | .quotedInAscii => (value.quoted.inAscii.cut? precision).map .text
  | .character => value.character?.map fun character => .text [character]
  | conversion =>
    match value with
    | .number value => showNumber? isAlternate precision value conversion
    | _ => none

/-- Pads with blanks to a width. -/
def align (isLeft : Bool) (width : Nat) (text : List Char) : List Char :=
  let blanks := List.replicate (width - text.length) ' '
  if isLeft then text ++ blanks else blanks ++ text

/-- The sign of a number, none of which is negative. -/
def sign (flags : List Char) : List Char :=
  if '+' ∈ flags then ['+'] else if ' ' ∈ flags then [' '] else []

/-- Pads a shown value to a width. Zeros go behind sign and marker. -/
def pad (flags : List Char) (width : Nat) : Shown → List Char
  | .text content => align ('-' ∈ flags) width content
  | .number marker digits =>
    let lead := sign flags ++ marker
    if '0' ∈ flags ∧ '-' ∉ flags then
      lead ++ List.replicate (width - (lead.length + digits.length)) '0' ++ digits
    else
      align ('-' ∈ flags) width (lead ++ digits)

end SurfaceDiff.Command.LogFormat
