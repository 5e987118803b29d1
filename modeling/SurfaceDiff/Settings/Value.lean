import SurfaceDiff.Rejection

/-!
Contract: values offered for settings, and which of them a setting accepts.

A boolean accepts the whole numbers 0 and 1 and some words in any case; a text accepts texts only.
Null, lists, records and fractions are accepted by none.
-/

namespace SurfaceDiff.Settings

/-- The kinds of values. -/
inductive Kind where
  | text
  | boolean
  | whole
  | decimal
  | list
  | record
  | null
deriving DecidableEq, Repr

/-- The word for a kind in messages. -/
def Kind.word : Kind → String
  | text => "str"
  | boolean => "bool"
  | whole => "int"
  | decimal => "float"
  | list => "list"
  | record => "dict"
  | null => "NoneType"

/-- An item of a list; of one that is not a text, only the kind matters. -/
inductive Item where
  | text (value : String)
  | other (kind : Kind)
deriving DecidableEq, Repr

/-- A value offered for a setting. -/
inductive Value where
  | text (value : String)
  | boolean (value : Bool)
  | whole (value : Int)
  /-- A number written with a point or an exponent, as the whole number of 64 bits that it is, if it
  is one. -/
  | decimal (value? : Option Int)
  | list (items : List Item)
  /-- Named values, of which only the names matter. -/
  | record (names : List String)
  | null
deriving DecidableEq, Repr

namespace Value

def kind : Value → Kind
  | text _ => .text
  | boolean _ => .boolean
  | whole _ => .whole
  | decimal _ => .decimal
  | list _ => .list
  | record _ => .record
  | null => .null

def text? : Value → Option String
  | text value => some value
  | _ => none

/-- Whether a value says yes: anything but null, zero, false and what is empty. -/
def isAffirmative : Value → Bool
  | text value => value ≠ ""
  | boolean value => value
  | whole value => value ≠ 0
  | decimal value? => value? ≠ some 0
  | list items => !items.isEmpty
  | record names => !names.isEmpty
  | null => false

def falseWords : List String := ["0", "off", "f", "false", "n", "no"]

def trueWords : List String := ["1", "on", "t", "true", "y", "yes"]

/-- The text with the capitals A to Z in lower case. -/
def asciiLowerCase (text : String) : String :=
  String.ofList (text.toList.map Char.toLower)

/-- Numbers beyond 64 bits do not count as whole numbers. -/
def FitsWord (value : Int) : Prop :=
  -0x8000000000000000 ≤ value ∧ value < 0x8000000000000000

instance (value : Int) : Decidable (FitsWord value) := by
  unfold FitsWord
  infer_instance

def toBool : Value → Except Fault Bool
  | text word =>
    if asciiLowerCase word ∈ falseWords then .ok false
    else if asciiLowerCase word ∈ trueWords then .ok true
    else .error .unreadableBoolean
  | boolean value => .ok value
  | whole value | decimal (some value) =>
    if value = 0 then .ok false
    else if value = 1 then .ok true
    else if FitsWord value then .error .unreadableBoolean
    else .error .notABoolean
  | decimal none | list _ | record _ | null => .error .notABoolean

def toText : Value → Except Fault String
  | text value => .ok value
  | _ => .error .notAText

end Value

end SurfaceDiff.Settings
