import SurfaceDiff.Report.Sink
import Std.Data.TreeMap

/-!
Contract: two collections parted by key into removed, added and common items.

Owns: the index by key, in which the first item of a key wins, the three-way partition, and the
entries that a partition reports.
Does not own: the keys; any function into texts will do.

Keys are ordered by code point.
-/

namespace SurfaceDiff

open Text

/-- The first item of each key, and the keys of all later items in their order. -/
structure Index (α : Type) where
  firsts : Std.TreeMap CodePoints α := ∅
  repeated : Array CodePoints := #[]

namespace Index

variable {α : Type}

def insert (key : α → CodePoints) (index : Index α) (item : α) : Index α :=
  if key item ∈ index.firsts then
    { index with repeated := index.repeated.push (key item) }
  else
    { index with firsts := index.firsts.insert (key item) item }

def ofList (key : α → CodePoints) (items : List α) : Index α :=
  items.foldl (insert key) {}

end Index

/-- The keys held by one side only, and the first items of the keys held by both. -/
structure Reconciliation (α : Type) where
  removed : List CodePoints
  added : List CodePoints
  common : List (α × α)

namespace Reconciliation

variable {α : Type}

def IsIdentical (result : Reconciliation α) : Prop :=
  result.removed = [] ∧ result.added = []

instance (result : Reconciliation α) : Decidable result.IsIdentical := by
  unfold IsIdentical
  infer_instance

/-- The keys of `left` that `right` does not hold, in order. -/
def keysMissing (left right : Index α) : List CodePoints :=
  left.firsts.keys.filter fun key => key ∉ right.firsts

/-- The items of the keys that both sides hold, in the order of the keys. -/
def pairs (left right : Index α) : List (α × α) :=
  left.firsts.toList.filterMap fun (key, item) =>
    right.firsts[key]?.map fun other => (item, other)

def ofIndexes (left right : Index α) : Reconciliation α where
  removed := keysMissing left right
  added := keysMissing right left
  common := pairs left right

/-- The entry of one outcome, unless it would hold no item. -/
def entry? (level : CodePoints) (outcome : Outcome) (items : List CodePoints) : List Entry :=
  if items = [] then [] else [⟨level, outcome, items⟩]

/-- What was removed, then what was added. -/
def entries (level : CodePoints) (result : Reconciliation α) : List Entry :=
  entry? level .removed result.removed ++ entry? level .added result.added

end Reconciliation

/-- A partition with the keys of the items that were left out of it, those of the left first. -/
structure Reconciled (α : Type) where
  result : Reconciliation α
  repeated : List CodePoints

def reconcile {α : Type} (key : α → CodePoints) (left right : List α) : Reconciled α :=
  let leftIndex := Index.ofList key left
  let rightIndex := Index.ofList key right
  { result := .ofIndexes leftIndex rightIndex
    repeated := leftIndex.repeated.toList ++ rightIndex.repeated.toList }

end SurfaceDiff
