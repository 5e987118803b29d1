import SurfaceDiff.Command.LogFormat.Check

/-!
Contract: the pieces of a format: plain characters and fields.

Owns: the types of pieces, and the splitting of a format into them.

A doubled percent sign stands for one of them; every other percent sign starts a field. A field names
a value of a record and says how it is shown. The first field can be without a name, and stands then
for the record as a whole. Sizes have to be given as numbers.
-/

namespace SurfaceDiff.Command.LogFormat

/-- What a field makes of a value. -/
inductive Conversion where
  | text
  | quoted
  | quotedInAscii
  | character
  | decimal
  | octal
  | hexadecimal (isCapital : Bool)
  | fixed
  | scientific (isCapital : Bool)
  | general (isCapital : Bool)
deriving DecidableEq, Repr

def Conversion.ofChar? : Char → Option Conversion
  | 's' => some text
  | 'r' => some quoted
  | 'a' => some quotedInAscii
  | 'c' => some character
  | 'd' | 'i' | 'u' => some decimal
  | 'o' => some octal
  | 'x' => some (hexadecimal false)
  | 'X' => some (hexadecimal true)
  | 'f' | 'F' => some fixed
  | 'e' => some (scientific false)
  | 'E' => some (scientific true)
  | 'g' => some (general false)
  | 'G' => some (general true)
  | _ => none

structure Field where
  name : Option String
  flags : List Char
  width : Option Nat
  precision : Option Nat
  conversion : Conversion
deriving DecidableEq, Repr

inductive Piece where
  | plain (character : Char)
  | field (field : Field)
deriving DecidableEq, Repr

def Piece.field? : Piece → Option Field
  | plain _ => none
  | field found => some found

/-- Reads a name in parentheses, if there is one. -/
def readName? : List Char → Option (Option String × List Char)
  | '(' :: rest =>
    match rest.dropWhile (· ≠ ')') with
    | _ :: behind => some (some (String.ofList (rest.takeWhile (· ≠ ')'))), behind)
    | [] => none
  | text => some (none, text)

/-- The number that decimal digits denote. -/
def digitsValue (digits : List Char) : Nat :=
  digits.foldl (fun value digit => value * 10 + (digit.toNat - '0'.toNat)) 0

/-- Sizes from here on are refused. -/
def sizeLimit : Nat := 0x8000000000000000

/-- Reads a size, if there is one; one that is too large is an error. -/
def readSize? (text : List Char) : Option (Option Nat × List Char) :=
  match text.takeWhile Char.isDigit with
  | [] => some (none, text)
  | digits =>
    if digitsValue digits < sizeLimit then
      some (some (digitsValue digits), text.dropWhile Char.isDigit)
    else
      none

/-- Reads a precision behind a point, if there is one; a point alone stands for zero. -/
def readPrecision? : List Char → Option (Option Nat × List Char)
  | '.' :: rest => (readSize? rest).map fun (size, behind) => (some (size.getD 0), behind)
  | text => some (none, text)

/-- Skips a letter for the size of numbers, which has no meaning here. -/
def skipLength : List Char → List Char
  | 'h' :: rest | 'l' :: rest | 'L' :: rest => rest
  | text => text

/-- Reads a field behind its percent sign. -/
def readField? (text : List Char) : Option (Field × List Char) := do
  let (name, text) ← readName? text
  let flags := text.takeWhile (· ∈ flagCharacters)
  let (width, text) ← readSize? (text.dropWhile (· ∈ flagCharacters))
  let (precision, text) ← readPrecision? text
  match skipLength text with
  | letter :: behind =>
    let conversion ← Conversion.ofChar? letter
    return (⟨name, flags, width, precision, conversion⟩, behind)
  | [] => none

/-- Splits a text into pieces; `limit` bounds their number. -/
def piecesFrom? : Nat → List Char → Option (List Piece)
  | _, [] => some []
  | 0, _ => none
  | limit + 1, '%' :: '%' :: rest => do
    return .plain '%' :: (← piecesFrom? limit rest)
  | limit + 1, '%' :: rest => do
    let (field, behind) ← readField? rest
    return .field field :: (← piecesFrom? limit behind)
  | limit + 1, character :: rest => do
    return .plain character :: (← piecesFrom? limit rest)

/-- Whether all fields but the first have a name. -/
def AreNamed (pieces : List Piece) : Prop :=
  ∀ field ∈ (pieces.filterMap Piece.field?).drop 1, field.name.isSome

instance (pieces : List Piece) : Decidable (AreNamed pieces) := by
  unfold AreNamed
  infer_instance

/-- The pieces of a format, if every percent sign starts a pair or a field and all fields are named
that have to be. -/
def pieces? (format : String) : Option (List Piece) := do
  let pieces ← piecesFrom? format.length format.toList
  if AreNamed pieces then some pieces else none

end SurfaceDiff.Command.LogFormat
