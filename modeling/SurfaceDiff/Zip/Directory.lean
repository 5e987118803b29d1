import SurfaceDiff.Text.CodePage
import SurfaceDiff.Text.Utf8
import SurfaceDiff.Zip.EndRecord

/-!
Contract: the central directory of a zip archive.

Owns: its records, their wide sizes, and where the data of each entry has to end.
Does not own: the data of the entries.

The directory is read until its size is used up. The record's position relative to the file is
corrected for bytes that precede the archive.
-/

namespace SurfaceDiff.Zip

/-- Why no directory can be read. -/
inductive OpenError where
  | notAnArchive
  | undecodableName (cause : Text.Utf8.DecodeError)
  | unsupportedVersion (tenths : Nat)
deriving DecidableEq, Repr

/-- The sizes and the place that a wide field may replace. -/
structure Extent where
  size : Nat
  compressedSize : Nat
  offset : Nat
deriving DecidableEq, Repr

/-- What the directory says about an entry. -/
structure Record where
  storedName : String
  flags : Nat
  method : Nat
  checksum : Nat
  attributes : Nat
  extent : Extent
deriving DecidableEq, Repr

namespace Record

/-- The stored name up to the first NUL. -/
def name (record : Record) : String :=
  String.ofList (record.storedName.toList.takeWhile (· ≠ '\x00'))

end Record

/-- Whether the bit of this weight is set. -/
def hasFlag (flags weight : Nat) : Bool :=
  flags / weight % 2 = 1

def utf8Flag : Nat := 0x800

/-- A flag announces UTF-8; other names are in code page 437. -/
def decodeName (flags : Nat) (bytes : List UInt8) : Except Text.Utf8.DecodeError String :=
  if hasFlag flags utf8Flag then Text.Utf8.decode bytes
  else .ok (String.ofList (bytes.map Text.CodePage.page437.character))

namespace Extent

def unknown32 : Nat := 0xFFFFFFFF

def unknown64 : Nat := 0xFFFFFFFFFFFFFFFF

/-- Takes the next wide number of a field for a value that is given as unknown. -/
def resolve (isUnknown : Bool) (value : Nat) (wide : List UInt8) : Option (Nat × List UInt8) :=
  if isUnknown then
    if wide.length < 8 then none else some (field wide 0 8, wide.drop 8)
  else
    some (value, wide)

/-- The extent with the numbers of a wide field, which must hold all that are needed. -/
def widen (extent : Extent) (wide : List UInt8) : Option Extent := do
  let sizeIsUnknown := extent.size = unknown64 ∨ extent.size = unknown32
  let (size, wide) ← resolve sizeIsUnknown extent.size wide
  let (compressedSize, wide) ←
    resolve (extent.compressedSize = unknown32) extent.compressedSize wide
  let (offset, _) ← resolve (extent.offset = unknown32) extent.offset wide
  return ⟨size, compressedSize, offset⟩

/-- Goes through the extra fields; up to three bytes may be left over. -/
def withExtra (extent : Extent) (extra : List UInt8) : Option Extent :=
  if long : 4 ≤ extra.length then
    let size := field extra 2 2
    if extra.length < size + 4 then
      none
    else
      let next := if field extra 0 2 = 1 then extent.widen ((extra.drop 4).take size) else extent
      next.bind fun extent => withExtra extent (extra.drop (size + 4))
  else
    some extent
termination_by extra.length
decreasing_by simp only [List.length_drop]; omega

end Extent

namespace Directory

def recordMark : List UInt8 := signature 1 2

def recordSize : Nat := 46

/-- The highest version of the format that is read, in tenths. -/
def highestVersion : Nat := 63

/-- Reads the record of fixed size `fixed` with its name and its extra fields. -/
def readRecord (fixed name extra : List UInt8) : Except OpenError Record := do
  let flags := field fixed 8 2
  let storedName ← (decodeName flags name).mapError .undecodableName
  if highestVersion < field fixed 6 1 then
    throw (.unsupportedVersion (field fixed 6 1))
  let extent : Extent := ⟨field fixed 24 4, field fixed 20 4, field fixed 42 4⟩
  match extent.withExtra extra with
  | some extent =>
    return {
      storedName, flags, extent
      method := field fixed 10 2
      checksum := field fixed 16 4
      attributes := field fixed 38 4 }
  | none => throw .notAnArchive

/-- Reads the records one after the other; a name, an extra field or a comment may be cut off at
the end of the directory. -/
def readRecords (bytes : List UInt8) (records : Array Record) :
    Except OpenError (Array Record) :=
  if _ : bytes ≠ [] then
    let fixed := bytes.take recordSize
    if fixed.length < recordSize ∨ fixed.take 4 ≠ recordMark then
      .error .notAnArchive
    else
      let nameSize := field fixed 28 2
      let extraSize := field fixed 30 2
      let commentSize := field fixed 32 2
      let name := (bytes.drop recordSize).take nameSize
      let extra := (bytes.drop (recordSize + nameSize)).take extraSize
      match readRecord fixed name extra with
      | .error cause => .error cause
      | .ok record =>
        readRecords (bytes.drop (recordSize + nameSize + extraSize + commentSize))
          (records.push record)
  else
    .ok records
termination_by bytes.length
decreasing_by
  have positive := List.length_pos_iff.mpr ‹bytes ≠ []›
  simp only [recordSize, List.length_drop]
  omega

end Directory

/-- An entry with its place in the file, and the place that its data must not pass. -/
structure Located where
  record : Record
  offset : Int
  stop : Int
deriving DecidableEq, Repr

namespace Directory

/-- Shifts each record by the bytes in front of the archive and bounds it by the next record in the
file, or by the directory's own start. Of two records at one place, the later one has no room. -/
def locate (start shift : Int) (records : List Record) : List Located :=
  let placed := records.zipIdx.map fun (record, index) =>
    (index, record, (record.extent.offset : Int) + shift)
  let descending := placed.mergeSort fun (_, _, first) (_, _, second) => second ≤ first
  let stops := start :: descending.map fun (_, _, offset) => offset
  let bounded := (descending.zip stops).mergeSort fun ((first, _), _) ((second, _), _) =>
    first ≤ second
  bounded.map fun ((_, record, offset), stop) => ⟨record, offset, stop⟩

/-- The entries of an archive in the order of its directory. -/
def read (content : ByteArray) : Except OpenError (List Located) :=
  match EndRecord.find? content with
  | none => .error .notAnArchive
  | some record =>
    if record.start < record.directorySize then
      .error .notAnArchive
    else
      let start := record.start - record.directorySize
      let directory := bytesAt content start record.directorySize
      (readRecords directory #[]).map fun records =>
        locate start ((start : Int) - record.directoryOffset) records.toList

end Directory

end SurfaceDiff.Zip
