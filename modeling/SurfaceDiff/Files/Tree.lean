import SurfaceDiff.Files.Found

/-!
Contract: files and directories from the root on, the working directory among them, and what a path
leads to.

Owns: the look-up in a tree held in memory, where nothing is refused but long names.
Does not own: any access to a disk.
-/

namespace SurfaceDiff.Files

inductive Node where
  | file (content : ByteArray)
  | directory

/-- Files and directories by their places, the paths from the root. A directory is also known by what
lies in it. Of two nodes at one place, the later one counts. -/
structure Tree where
  nodes : List (List String × Node)
  workingPlace : List String := []

namespace Tree

/-- The node at a place; the root and the way to the working directory are always there. -/
def at? (tree : Tree) (place : List String) : Option Node :=
  match tree.nodes.reverse.find? fun (path, _) => path = place with
  | some (_, node) => some node
  | none =>
    if place.isPrefixOf tree.workingPlace ∨ tree.nodes.any fun (path, _) => place.isPrefixOf path then
      some .directory
    else
      none

/-- The files below a place. -/
def membersBelow (tree : Tree) (place : List String) : List Member :=
  let paths := (tree.nodes.map Prod.fst).eraseDups
  paths.filterMap fun path =>
    match tree.at? path with
    | some (.file content) =>
      if place.isPrefixOf path ∧ path ≠ place then
        some ⟨path.drop place.length, .ok content⟩
      else
        none
    | _ => none

/-- The directories below a place. -/
def directoriesBelow (tree : Tree) (place : List String) : List (List String) :=
  let ways := tree.nodes.flatMap fun (path, _) =>
    if place.isPrefixOf path then
      (List.range (path.length - place.length)).map fun index => path.take (place.length + index + 1)
    else
      []
  (ways.eraseDups.filter fun way => tree.at? way matches some .directory).map
    fun way => way.drop place.length

def contentsBelow (tree : Tree) (place : List String) : Contents where
  directories := (tree.directoriesBelow place).map fun components => { components }
  members := tree.membersBelow place

def found (tree : Tree) (place : List String) : Found :=
  match tree.at? place with
  | none => .missing
  | some (.file content) => .file (.ok content)
  | some .directory => .directory (tree.contentsBelow place)

/-- Follows components one by one; each step but the last has to lead to a directory. The root is the
directory above itself. -/
def follow (tree : Tree) (place : List String) : List String → Found
  | [] => tree.found place
  | component :: rest =>
    match tree.at? place with
    | some .directory =>
      if component = ".." then follow tree place.dropLast rest
      else if Path.longestName < component.utf8ByteSize then .nameTooLong
      else follow tree (place ++ [component]) rest
    | _ => .missing

/-- What a path leads to, from the root or from the working directory. -/
def lookUp (tree : Tree) (path : Path) : Found :=
  if Path.HasNul path.text then .missing
  else if path.IsTooLong then .nameTooLong
  else tree.follow (if path.root = "" then tree.workingPlace else []) path.components

end Tree

end SurfaceDiff.Files
