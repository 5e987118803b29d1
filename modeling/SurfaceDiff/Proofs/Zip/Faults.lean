import Mathlib.Data.List.Infix
import SurfaceDiff.Zip.Entry

/-!
Contract: what in a file keeps its directory, or one of its entries, from being read.

Owns: the bytes that a fault comes from, for those faults that are not plainly faults of the archive:
a name that is no text, a version that is not known, an offset out of all bounds, and data that a
decompressor of the platform refuses.
-/

namespace SurfaceDiff.Zip

open Text

variable {α β ε : Type}

theorem bind_eq_error {first : Except ε α} {next : α → Except ε β} {cause : ε}
    (failed : (first >>= next) = .error cause) :
    first = .error cause ∨ ∃ value, first = .ok value ∧ next value = .error cause := by
  cases first with
  | error other =>
      cases failed
      exact .inl rfl
  | ok value => exact .inr ⟨value, rfl, failed⟩

theorem map_eq_error {first : Except ε α} {next : α → β} {cause : ε}
    (failed : first.map next = .error cause) : first = .error cause := by
  cases first with
  | error other =>
      cases failed
      rfl
  | ok value => cases failed

theorem mapError_eq_error {ε' : Type} {first : Except ε α} {next : ε → ε'} {cause : ε'}
    (failed : first.mapError next = .error cause) :
    ∃ other, first = .error other ∧ next other = cause := by
  cases first with
  | error other => exact ⟨other, rfl, Except.error.inj failed⟩
  | ok value => cases failed

theorem bytesAt_isInfix (content : ByteArray) (offset size : Nat) :
    bytesAt content offset size <:+: content.data.toList := by
  unfold bytesAt slice
  rw [ByteArray.data_extract, Array.toList_extract, List.extract_eq_take_drop]
  exact (List.take_prefix _ _).isInfix.trans (List.drop_suffix _ _).isInfix

theorem decode_of_decodeName {flags : Nat} {bytes : List UInt8} {cause : Utf8.DecodeError}
    (failed : decodeName flags bytes = .error cause) : Utf8.decode bytes = .error cause := by
  unfold decodeName at failed
  split at failed
  · exact failed
  · cases failed

namespace Directory

/-! ## The directory -/

/-- A record of a directory stands in the bytes, with this fixed part and this name. -/
structure HoldsRecord (bytes fixed name : List UInt8) : Prop where
  inside : fixed ++ name <:+: bytes
  length : fixed.length = recordSize
  marked : fixed.take 4 = recordMark
  fits : name.length ≤ field fixed 28 2

theorem HoldsRecord.mono {bytes more fixed name : List UInt8} (holds : HoldsRecord bytes fixed name)
    (inside : bytes <:+: more) : HoldsRecord more fixed name :=
  { holds with inside := holds.inside.trans inside }

/-- Why a record with this fixed part and this name is refused. -/
inductive RecordFault (fixed name : List UInt8) : OpenError → Prop where
  | malformed : RecordFault fixed name .notAnArchive
  | undecodableName {cause : Utf8.DecodeError} (undecodable : Utf8.decode name = .error cause) :
    RecordFault fixed name (.undecodableName cause)
  | unsupportedVersion (tooHigh : highestVersion < field fixed 6 1) :
    RecordFault fixed name (.unsupportedVersion (field fixed 6 1))

theorem readRecord_fault {fixed name extra : List UInt8} {cause : OpenError}
    (failed : readRecord fixed name extra = .error cause) : RecordFault fixed name cause := by
  unfold readRecord at failed
  rcases bind_eq_error failed with unnamed | ⟨storedName, _, failed⟩
  · obtain ⟨fault, undecoded, rfl⟩ := mapError_eq_error unnamed
    exact .undecodableName (decode_of_decodeName undecoded)
  · split at failed
    case isTrue tooHigh =>
      cases failed
      exact .unsupportedVersion tooHigh
    case isFalse =>
      simp only at failed
      split at failed
      · cases failed
      · cases failed
        exact .malformed

/-- The fixed part and the name of a record are the start of the bytes that are left. -/
theorem holdsRecord_take {bytes : List UInt8}
    (complete : ¬((bytes.take recordSize).length < recordSize ∨
      (bytes.take recordSize).take 4 ≠ recordMark)) :
    HoldsRecord bytes (bytes.take recordSize)
      ((bytes.drop recordSize).take (field (bytes.take recordSize) 28 2)) := by
  obtain ⟨long, marked⟩ := not_or.mp complete
  have length : (bytes.take recordSize).length = recordSize := by
    have atMost : (bytes.take recordSize).length ≤ recordSize := List.length_take_le _ _
    omega
  constructor
  case inside =>
    rw [← List.take_add]
    exact (List.take_prefix _ _).isInfix
  case length => exact length
  case marked => exact Decidable.not_not.mp marked
  case fits => exact List.length_take_le _ _

/-- The directory fails at one of its records. -/
theorem readRecords_fault {bytes : List UInt8} {records : Array Record} {cause : OpenError}
    (failed : readRecords bytes records = .error cause) :
    cause = .notAnArchive ∨
      ∃ fixed name, HoldsRecord bytes fixed name ∧ RecordFault fixed name cause := by
  fun_induction readRecords bytes records with
  | case1 =>
      cases failed
      exact .inl rfl
  | case2 _ _ _ _ complete _ _ _ _ fault refused =>
      cases failed
      exact .inr ⟨_, _, holdsRecord_take complete, readRecord_fault refused⟩
  | case3 bytes _ _ _ _ _ _ _ _ _ _ _ inductionHypothesis =>
      rcases inductionHypothesis failed with plain | ⟨fixed, name, holds, fault⟩
      · exact .inl plain
      · exact .inr ⟨fixed, name, holds.mono (List.drop_suffix _ _).isInfix, fault⟩
  | case4 => cases failed

/-- If an archive cannot be opened, it is no archive, or one of the records of its directory has a
fault. -/
theorem read_fault {content : ByteArray} {cause : OpenError} (failed : read content = .error cause) :
    cause = .notAnArchive ∨
      ∃ fixed name, HoldsRecord content.data.toList fixed name ∧ RecordFault fixed name cause := by
  unfold read at failed
  split at failed
  case h_1 =>
    cases failed
    exact .inl rfl
  case h_2 record _ =>
    split at failed
    case isTrue =>
      cases failed
      exact .inl rfl
    case isFalse =>
      rcases readRecords_fault (map_eq_error failed) with plain | ⟨fixed, name, holds, fault⟩
      · exact .inl plain
      · exact .inr ⟨fixed, name, holds.mono (bytesAt_isInfix _ _ _), fault⟩

end Directory

namespace Entry

/-! ## The data of an entry -/

/-- The platform has this decompressor for the method. -/
inductive HasLibrary (platform : Platform) : Nat → Decompressor → Prop where
  | bzip2 {decompress : Decompressor} (library : platform.bzip2 = some decompress) :
    HasLibrary platform 12 decompress
  | lzma {decompress : Decompressor} (library : platform.lzma = some decompress) :
    HasLibrary platform 14 decompress

/-- The decompressor of the entry's method raises this on a piece of the file, of the entry's size or up
to the end of the file. -/
structure Raises (platform : Platform) (content : ByteArray) (entry : Located) (cause : Raised) : Prop where
  raises : ∃ decompress, HasLibrary platform entry.record.method decompress ∧
    ∃ start, decompress (slice content start entry.record.extent.compressedSize) = .error cause

/-- Why an entry of the file cannot be read. -/
inductive ReadFault (platform : Platform) (content : ByteArray) (entry : Located) : ReadError → Prop where
  | malformed : ReadFault platform content entry .notAnArchive
  | invalidOffset : ReadFault platform content entry .invalidOffset
  | unreadable (cause : EntryFault) : ReadFault platform content entry (.unreadable cause)
  | offsetTooLarge (outside : entry.offset < -offsetLimit ∨ offsetLimit ≤ entry.offset) :
    ReadFault platform content entry .offsetTooLarge
  | undecodableName {name : List UInt8} {cause : Utf8.DecodeError}
    (inside : name <:+: content.data.toList) (undecodable : Utf8.decode name = .error cause) :
    ReadFault platform content entry (.undecodableName cause)
  | raised {cause : Raised} (raises : Raises platform content entry cause) :
    ReadFault platform content entry (.raised cause)

variable {platform : Platform} {content : ByteArray} {entry : Located} {cause : ReadError}

/-- A demand that comes first fails for its own cause, or the rest fails. -/
theorem of_demand {rule : Prop} [Decidable rule] {error : ReadError} {next : Except ReadError α}
    (fault : ReadFault platform content entry error)
    (later : next = .error cause → ReadFault platform content entry cause)
    (failed : (demand rule error >>= fun _ => next) = .error cause) :
    ReadFault platform content entry cause := by
  rcases bind_eq_error failed with here | ⟨_, _, failed⟩
  · unfold demand at here
    split at here
    · cases here
    · obtain rfl := Except.error.inj here
      exact fault
  · exact later failed

theorem place_fault (failed : place entry.offset = .error cause) : ReadFault platform content entry cause := by
  unfold place at failed
  split at failed
  case isTrue outside =>
    cases failed
    exact .offsetTooLarge outside
  case isFalse =>
    split at failed
    · cases failed
      exact .invalidOffset
    · cases failed

theorem dataStart_fault (failed : dataStart content entry = .error cause) :
    ReadFault platform content entry cause := by
  unfold dataStart at failed
  rcases bind_eq_error failed with outside | ⟨offset, _, failed⟩
  · exact place_fault outside
  refine of_demand .malformed (fun failed => ?_) failed
  refine of_demand (.unreadable _) (fun failed => ?_) failed
  refine of_demand (.unreadable _) (fun failed => ?_) failed
  rcases bind_eq_error failed with unnamed | ⟨localName, _, failed⟩
  · obtain ⟨fault, undecoded, rfl⟩ := mapError_eq_error unnamed
    exact .undecodableName (bytesAt_isInfix _ _ _) (decode_of_decodeName undecoded)
  refine of_demand .malformed (fun failed => ?_) failed
  refine of_demand .malformed (fun failed => ?_) failed
  refine of_demand (.unreadable _) (fun failed => ?_) failed
  cases failed

theorem exists_of_ofLibrary {name : String} {library : Option Decompressor} {unpack : Unpacking}
    (isUnpacking : ofLibrary name library = .ok unpack) :
    ∃ decompress, library = some decompress ∧ unpack = unpackWith decompress := by
  cases library with
  | some decompress => exact ⟨decompress, rfl, (Except.ok.inj isUnpacking).symm⟩
  | none => cases isUnpacking

theorem unpacking_fault {method : Nat} (failed : unpacking platform method = .error cause) :
    ReadFault platform content entry cause := by
  have ofLibrary_fault (name : String) (library : Option Decompressor)
      (failed : ofLibrary name library = .error cause) : ReadFault platform content entry cause := by
    cases library with
    | some => cases failed
    | none =>
        cases failed
        exact .unreadable _
  unfold unpacking at failed
  split at failed
  · cases failed
  · cases failed
  · exact ofLibrary_fault _ _ failed
  · exact ofLibrary_fault _ _ failed
  · cases failed
    exact .unreadable _

/-- Only a decompressor of the platform raises anything. -/
theorem unpack_fault {unpack : Unpacking} {start : Nat}
    (isUnpacking : unpacking platform entry.record.method = .ok unpack)
    (failed : unpack (slice content start entry.record.extent.compressedSize) = .error cause) :
    ReadFault platform content entry cause := by
  have ofLibrary_fault {decompress : Decompressor}
      (library : HasLibrary platform entry.record.method decompress)
      (failed : unpackWith decompress (slice content start entry.record.extent.compressedSize) =
        .error cause) : ReadFault platform content entry cause := by
    obtain ⟨raised, raises, rfl⟩ := mapError_eq_error failed
    exact .raised ⟨decompress, library, start, raises⟩
  unfold unpacking at isUnpacking
  split at isUnpacking
  case h_1 =>
    obtain rfl := Except.ok.inj isUnpacking
    cases failed
  case h_2 =>
    obtain rfl := Except.ok.inj isUnpacking
    unfold unpackDeflated at failed
    split at failed
    · cases failed
    · cases failed
      exact .unreadable _
  case h_3 method =>
    obtain ⟨decompress, library, rfl⟩ := exists_of_ofLibrary isUnpacking
    exact ofLibrary_fault (method ▸ .bzip2 library) failed
  case h_4 method =>
    obtain ⟨decompress, library, rfl⟩ := exists_of_ofLibrary isUnpacking
    exact ofLibrary_fault (method ▸ .lzma library) failed
  case h_5 => cases isUnpacking

theorem read_fault (failed : read platform content entry = .error cause) :
    ReadFault platform content entry cause := by
  unfold read at failed
  rcases bind_eq_error failed with unplaced | ⟨start, _, failed⟩
  · exact dataStart_fault unplaced
  rcases bind_eq_error failed with unsupported | ⟨unpack, isUnpacking, failed⟩
  · exact unpacking_fault unsupported
  refine of_demand (.unreadable _) (fun failed => ?_) failed
  rcases bind_eq_error failed with corrupt | ⟨unpacked, _, failed⟩
  · exact unpack_fault isUnpacking corrupt
  refine of_demand (.unreadable _) (fun failed => ?_) failed
  refine of_demand .malformed (fun failed => ?_) failed
  cases failed

end Entry

end SurfaceDiff.Zip
