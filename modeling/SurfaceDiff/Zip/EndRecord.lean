import SurfaceDiff.Zip.Bytes

/-!
Contract: the record at the end of a zip archive, which says where its directory lies.

Owns: finding the record, and its wide form for large archives.

The record is the last 22 bytes if they are one without a comment; else it is the last one that
starts within the longest possible comment from the end. What it says about the number of entries
is not used.
-/

namespace SurfaceDiff.Zip

/-- Size and nominal offset of the directory, and where the records behind it start. -/
structure EndRecord where
  directorySize : Nat
  directoryOffset : Nat
  start : Nat
deriving DecidableEq, Repr

namespace EndRecord

def size : Nat := 22

def wideSize : Nat := 56

def locatorSize : Nat := 20

/-- How far from the end a record can start. -/
def searchSize : Nat := 0x10000 + size

def HasSignature (content : ByteArray) (offset : Nat) (mark : List UInt8) : Prop :=
  bytesAt content offset 4 = mark

instance (content : ByteArray) (offset : Nat) (mark : List UInt8) :
    Decidable (HasSignature content offset mark) := by
  unfold HasSignature
  infer_instance

def mark : List UInt8 := signature 5 6

/-- The last place with the record's signature among the `count` places from `first` on. -/
def lastMark? (content : ByteArray) (first : Nat) : Nat → Option Nat
  | 0 => none
  | count + 1 =>
    if HasSignature content (first + count) mark then some (first + count)
    else lastMark? content first count

/-- Where the record starts. -/
def location? (content : ByteArray) : Option Nat :=
  if content.size < size then
    none
  else
    let last := content.size - size
    if HasSignature content last mark ∧ bytesAt content (content.size - 2) 2 = [0, 0] then
      some last
    else
      let first := content.size - searchSize
      (lastMark? content first (content.size - first)).filter fun start =>
        start + size ≤ content.size

/-- The record at its place, as its own fields describe it. -/
def narrow (content : ByteArray) (start : Nat) : EndRecord :=
  let record := bytesAt content start size
  ⟨field record 12 4, field record 16 4, start⟩

/-- Replaces the description by the wide record that a locator in front announces. An archive on
several disks, or a wide record that would start before the file, is refused. -/
def widened (content : ByteArray) (record : EndRecord) : Option EndRecord :=
  if record.start < locatorSize then
    some record
  else
    let locator := bytesAt content (record.start - locatorSize) locatorSize
    if locator.take 4 = signature 6 7 then
      if field locator 4 4 = 0 ∧ field locator 16 4 ≤ 1 then
        if record.start < locatorSize + wideSize then
          none
        else
          let start := record.start - locatorSize - wideSize
          let wide := bytesAt content start wideSize
          if wide.take 4 = signature 6 6 then
            some ⟨field wide 40 8, field wide 48 8, start⟩
          else
            some record
      else
        none
    else
      some record

def find? (content : ByteArray) : Option EndRecord :=
  (location? content).bind fun start => widened content (narrow content start)

end EndRecord

end SurfaceDiff.Zip
