/-!
Contract: values refused because some of their fields break a rule.

Owns: the rules, their codes and their wording.
Does not own: the check of any rule; each type checks its own fields.
-/

namespace SurfaceDiff

/-- What the refused fields were to become. -/
inductive Subject where
  | classDecl
  | reportEntry
  | settings
deriving DecidableEq, Repr

/-- The rule that a field breaks. -/
inductive Fault where
  | emptyText
  | loneSurrogate
  | notAnOutcome
  | unreadableBoolean
  | notABoolean
  | notAText
  | unknownName
deriving DecidableEq, Repr

structure FieldFault where
  field : String
  fault : Fault
deriving DecidableEq, Repr

/-- At least one field of the subject breaks a rule; faults come in the order of the fields. -/
structure Rejection where
  subject : Subject
  faults : List FieldFault
deriving DecidableEq, Repr

def Fault.code : Fault → String
  | .emptyText => "string_too_short"
  | .loneSurrogate => "string_unicode"
  | .notAnOutcome => "enum"
  | .unreadableBoolean => "bool_parsing"
  | .notABoolean => "bool_type"
  | .notAText => "string_type"
  | .unknownName => "extra_forbidden"

def Fault.message : Fault → String
  | .emptyText => "String should have at least 1 character"
  | .loneSurrogate => "Input should be a valid string, unable to parse raw data as a unicode string"
  | .notAnOutcome => "Input should be 'ADDED', 'REMOVED' or 'CHANGED'"
  | .unreadableBoolean => "Input should be a valid boolean, unable to interpret input"
  | .notABoolean => "Input should be a valid boolean"
  | .notAText => "Input should be a valid string"
  | .unknownName => "Extra inputs are not permitted"

/-- A line for each fault. -/
def Rejection.message (rejection : Rejection) : String :=
  "\n".intercalate (rejection.faults.map fun fault => fault.field ++ ": " ++ fault.fault.message)

/-- The value, unless a fault was found. -/
def Rejection.guard {α : Type} (subject : Subject) (faults : List FieldFault) (value : α) :
    Except Rejection α :=
  if faults = [] then .ok value else .error ⟨subject, faults⟩

end SurfaceDiff
