import SurfaceDiff.Settings.Assignments
import SurfaceDiff.Settings.Dotenv

/-!
Contract: references in the values of a settings file, `${NAME}` and `${NAME:-default}`.

Owns: their grammar, and what they stand for.

A reference stands for the value that the file gave to the name above it or, failing that, for the
environment variable, or for the default. A name known without a value stands for nothing.
-/

namespace SurfaceDiff.Settings

/-- A reference to a name, with the text that replaces it when the name is not known. -/
structure Reference where
  name : String
  default : String := ""
deriving DecidableEq, Repr

namespace Reference

/-- Reads a reference at the start of the text. -/
def read? : List Char → Option (Reference × List Char)
  | '$' :: '{' :: text =>
    let name := String.ofList (text.takeWhile fun character => character ≠ '}' && character ≠ ':')
    match text.dropWhile fun character => character ≠ '}' && character ≠ ':' with
    | '}' :: behind => some ({ name }, behind)
    | ':' :: '-' :: rest =>
      match rest.dropWhile (· ≠ '}') with
      | _ :: behind => some (⟨name, String.ofList (rest.takeWhile (· ≠ '}'))⟩, behind)
      | [] => none
    | _ => none
  | _ => none

/-- Replaces the references of a text; `limit` bounds the number of steps. -/
def expandFrom (lookUp : String → Option String) : Nat → List Char → List Char
  | 0, text => text
  | _, [] => []
  | limit + 1, character :: rest =>
    match read? (character :: rest) with
    | some (reference, behind) =>
      ((lookUp reference.name).getD reference.default).toList ++ expandFrom lookUp limit behind
    | none => character :: expandFrom lookUp limit rest

def expand (lookUp : String → Option String) (text : String) : String :=
  String.ofList (expandFrom lookUp text.length text.toList)

/-- What a name stands for below the bindings `above` it. -/
def meaning? (environment : Assignments String) (above : Assignments (Option String))
    (name : String) : Option String :=
  match above.find? name with
  | some value => some (value.getD "")
  | none => environment.find? name

/-- The values of a file's bindings, with their references replaced. -/
def resolve (environment : Assignments String) (bindings : List Dotenv.Binding) :
    Assignments (Option String) :=
  bindings.foldl (fun above binding =>
    above.assign binding.name (binding.value.map (expand (meaning? environment above)))) {}

end Reference

end SurfaceDiff.Settings
