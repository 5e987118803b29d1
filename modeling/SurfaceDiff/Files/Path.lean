import SurfaceDiff.Text.Quoted

/-!
Contract: paths of files, in the normal form in which they are shown.

Owns: `Path`, its reading and its text, the limits on names and paths, and the wording of what is
beyond them.

Empty components and single dots are dropped; double dots stay, for what they mean depends on the
directories that they pass.
-/

namespace SurfaceDiff.Files

/-- The slashes that a path starts with, and its components. -/
structure Path where
  root : String
  components : List String
deriving DecidableEq, Repr

namespace Path

/-- Exactly two slashes at the start are kept apart from one; more count as one. -/
def rootOf (text : String) : String :=
  match (text.toList.takeWhile (· = '/')).length with
  | 0 => ""
  | 2 => "//"
  | _ => "/"

def ofText (text : String) : Path where
  root := rootOf text
  components := (text.splitOn "/").filter fun component => component ≠ "" ∧ component ≠ "."

/-- The path in one text; the empty path is a dot. -/
def text (path : Path) : String :=
  if path.root = "" ∧ path.components = [] then "."
  else path.root ++ "/".intercalate path.components

/-- The path of what lies below at these components. -/
def below (path : Path) (components : List String) : Path :=
  { path with components := path.components ++ components }

/-- The longest name of a file, in bytes. -/
def longestName : Nat := 255

/-- The longest path, in bytes. -/
def longestPath : Nat := 4095

/-- Nothing can be reached by such a path, wherever it leads. -/
def IsTooLong (path : Path) : Prop := longestPath < path.text.utf8ByteSize

instance (path : Path) : Decidable path.IsTooLong := by
  unfold IsTooLong
  infer_instance

def tooLongMessage (text : String) : String :=
  "[Errno 36] File name too long: " ++ Text.Quoted.encodeString text

/-- No file has such a path. -/
def HasNul (text : String) : Prop := '\x00' ∈ text.toList

instance (text : String) : Decidable (HasNul text) := by
  unfold HasNul
  infer_instance

end Path

end SurfaceDiff.Files
