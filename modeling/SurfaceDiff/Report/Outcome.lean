import SurfaceDiff.Terminal
import SurfaceDiff.Text.Quoted

/-!
Contract: the three kinds of difference, with their names, labels and colours.

Owns: reading an outcome from its name, and the refusal of every other text.
-/

namespace SurfaceDiff

inductive Outcome where
  | added
  | removed
  | changed
deriving DecidableEq, Repr

namespace Outcome

def name : Outcome → String
  | added => "ADDED"
  | removed => "REMOVED"
  | changed => "CHANGED"

def label : Outcome → String
  | added => "Added"
  | removed => "Removed"
  | changed => "Changed"

def colour : Outcome → String
  | added => "green"
  | removed => "red"
  | changed => "cyan"

/-- The markup of the label in its colour. -/
def markup (outcome : Outcome) : Text.CodePoints :=
  Terminal.styled outcome.colour (.ofString outcome.label)

/-- A text that names no outcome. -/
structure UnknownName where
  text : String
deriving DecidableEq, Repr

def UnknownName.message (unknown : UnknownName) : String :=
  Text.Quoted.encodeString unknown.text ++ " is not a valid ReportOutcome"

/-- The outcome of this exact name; labels and other spellings are refused. -/
def ofName (text : String) : Except UnknownName Outcome :=
  if text = added.name then .ok added
  else if text = removed.name then .ok removed
  else if text = changed.name then .ok changed
  else .error ⟨text⟩

end Outcome

end SurfaceDiff
