import Mathlib.Control.Monad.Basic
import Mathlib.Tactic.MkIffOfInductiveProp
import SurfaceDiff.Zip.Entry

/-!
Contract: zip archives of a few small files that are stored as they are, and how these are read back.

Owns: the bytes of such an archive, one step through a directory, the run through all records, and the
reading of one entry.
Does not own: archives that some other program wrote.

The bytes of an archive are its files, its directory and its end. Reading the directory is an induction on
the records, while each single record and each header is small enough to be computed.
-/

namespace SurfaceDiff.Zip

theorem slice_append (front bytes back : List UInt8) :
    slice ⟨(front ++ bytes ++ back).toArray⟩ front.length bytes.length = ⟨bytes.toArray⟩ := by
  have size : ByteArray.size ⟨(front ++ bytes ++ back).toArray⟩ =
      front.length + bytes.length + back.length := by
    simp [ByteArray.size, Nat.add_assoc]
  unfold slice
  rw [size, Nat.min_eq_left (by omega), Nat.min_eq_left (by omega)]
  simp [ByteArray.ext_iff, ByteArray.data_extract]

theorem bytesAt_append (front bytes back : List UInt8) :
    bytesAt ⟨(front ++ bytes ++ back).toArray⟩ front.length bytes.length = bytes := by
  unfold bytesAt
  rw [slice_append]

/-- One step through a directory. -/
theorem Directory.readRecords_of_complete {bytes fixed : List UInt8} {records : Array Record}
    (record : Record) (start : bytes.take recordSize = fixed)
    (complete : ¬(fixed.length < recordSize ∨ fixed.take 4 ≠ recordMark))
    (read : readRecord fixed ((bytes.drop recordSize).take (field fixed 28 2))
      ((bytes.drop (recordSize + field fixed 28 2)).take (field fixed 30 2)) = .ok record) :
    readRecords bytes records =
      readRecords (bytes.drop (recordSize + field fixed 28 2 + field fixed 30 2 + field fixed 32 2))
        (records.push record) := by
  subst start
  have nonempty : bytes ≠ [] := by
    rintro rfl
    exact complete (.inl (by decide))
  rw [readRecords, dif_pos nonempty]
  simp only [if_neg complete, read]

/-! ## Bytes of an archive -/

def asciiBytes (text : String) : List UInt8 :=
  text.toList.map fun character => character.toNat.toUInt8

/-- A number below 65536 in the two bytes of a field. -/
def shortBytes (number : Nat) : List UInt8 :=
  [(number % 0x100).toUInt8, (number / 0x100).toUInt8]

/-- A file with a name in ASCII; its size and its place in the archive are below 65536. -/
structure StoredFile where
  name : String
  data : List UInt8
  checksum : List UInt8
  offset : Nat

namespace StoredFile

/-- What the header of the file and its record in the directory have in common. -/
def fields (file : StoredFile) : List UInt8 :=
  let size := shortBytes file.data.length ++ [0, 0]
  [10, 0, 0, 8, 0, 0, 0, 0, 0x21, 0] ++ file.checksum ++ size ++ size ++
    shortBytes file.name.length ++ [0, 0]

/-- The header without the name. -/
def header (file : StoredFile) : List UInt8 :=
  signature 3 4 ++ file.fields

def stored (file : StoredFile) : List UInt8 :=
  file.header ++ asciiBytes file.name ++ file.data

/-- The record without the name. -/
def fixed (file : StoredFile) : List UInt8 :=
  signature 1 2 ++ [10, 0] ++ file.fields ++ [0, 0, 0, 0, 0, 0, 0, 0, 0, 0] ++
    shortBytes file.offset ++ [0, 0]

def listed (file : StoredFile) : List UInt8 :=
  file.fixed ++ asciiBytes file.name

def record (file : StoredFile) : Record where
  storedName := file.name
  flags := utf8Flag
  method := 0
  checksum := littleEndian file.checksum
  attributes := 0
  extent := ⟨file.data.length, file.data.length, file.offset⟩

/-- The record is read back from its bytes. -/
@[mk_iff]
structure IsListed (file : StoredFile) : Prop where
  length : file.fixed.length = Directory.recordSize
  marked : file.fixed.take 4 = Directory.recordMark
  nameSize : field file.fixed 28 2 = (asciiBytes file.name).length
  noExtra : field file.fixed 30 2 = 0
  noComment : field file.fixed 32 2 = 0
  read : Directory.readRecord file.fixed (asciiBytes file.name) [] = .ok file.record

instance (file : StoredFile) : Decidable file.IsListed :=
  decidable_of_iff' _ file.isListed_iff

/-- The header agrees with the record, and the checksum with the data. -/
@[mk_iff]
structure IsSound (file : StoredFile) : Prop where
  length : file.header.length = Entry.headerSize
  marked : file.header.take 4 = Entry.headerMark
  nameSize : field file.header 26 2 = (asciiBytes file.name).length
  noExtra : field file.header 28 2 = 0
  named : decodeName (field file.header 6 2) (asciiBytes file.name) = .ok file.name
  checked : (Crc32.checksum ⟨file.data.toArray⟩).toNat = littleEndian file.checksum
  offset_le : (file.offset : Int) ≤ Entry.farthestOffset

instance (file : StoredFile) : Decidable file.IsSound :=
  decidable_of_iff' _ file.isSound_iff

end StoredFile

/-- The files, from the last one to the first. -/
def storedBytes (files : List StoredFile) : List UInt8 :=
  files.reverse.flatMap StoredFile.stored

/-- The directory, in the order of the files. -/
def listedBytes (files : List StoredFile) : List UInt8 :=
  files.flatMap StoredFile.listed

def endBytes (files : List StoredFile) : List UInt8 :=
  signature 5 6 ++ [0, 0, 0, 0] ++ shortBytes files.length ++ shortBytes files.length ++
    shortBytes (listedBytes files).length ++ [0, 0] ++ shortBytes (storedBytes files).length ++
    [0, 0, 0, 0]

def storedArchive (files : List StoredFile) : ByteArray :=
  ⟨(storedBytes files ++ listedBytes files ++ endBytes files).toArray⟩

/-! ## Reading the directory -/

theorem readRecords_listed {files : List StoredFile} (isListed : ∀ file ∈ files, file.IsListed)
    (records : Array Record) :
    Directory.readRecords (listedBytes files) records =
      .ok (records ++ (files.map StoredFile.record).toArray) := by
  -- Each step takes the bytes of one file away and adds its record to those read so far.
  induction files generalizing records with
  | nil =>
      rw [listedBytes, List.flatMap_nil, Directory.readRecords, dif_neg (by simp)]
      simp
  | cons file files inductionHypothesis =>
      obtain ⟨isFirst, later⟩ := List.forall_mem_cons.mp isListed
      obtain ⟨length, marked, nameSize, noExtra, noComment, read⟩ := isFirst
      have split : listedBytes (file :: files) =
          file.fixed ++ (asciiBytes file.name ++ listedBytes files) := by
        simp [listedBytes, StoredFile.listed, List.append_assoc]
      have complete :
          ¬(file.fixed.length < Directory.recordSize ∨ file.fixed.take 4 ≠ Directory.recordMark) :=
        not_or.mpr ⟨by omega, not_not_intro marked⟩
      rw [split, Directory.readRecords_of_complete file.record (List.take_left' length) complete]
      · rw [nameSize, noExtra, noComment, Nat.add_zero, ← length, ← List.length_append,
          ← List.append_assoc, List.drop_left, inductionHypothesis later]
        simp
      · rw [nameSize, noExtra, ← length, List.drop_left, List.take_left, List.take_zero]
        exact read

/-- The archive has the entries of its files, as far as its end is found. -/
theorem read_storedArchive {files : List StoredFile} (isListed : ∀ file ∈ files, file.IsListed)
    (ends : EndRecord.find? (storedArchive files) = some ⟨(listedBytes files).length,
      (storedBytes files).length, (storedBytes files).length + (listedBytes files).length⟩) :
    Directory.read (storedArchive files) =
      .ok (Directory.locate (storedBytes files).length 0 (files.map StoredFile.record)) := by
  have listed : bytesAt (storedArchive files) (storedBytes files).length (listedBytes files).length =
      listedBytes files := bytesAt_append _ _ _
  have readAll := readRecords_listed isListed #[]
  unfold Directory.read
  rw [ends]
  simp [listed, readAll, Except.map]

/-! ## Reading an entry -/

theorem dataStart_stored {file : StoredFile} (isSound : file.IsSound) {front : List UInt8}
    (isFront : front.length = file.offset) (back : List UInt8) {stop : Int}
    (ends : ((front ++ file.stored).length : Int) ≤ stop) :
    Entry.dataStart ⟨(front ++ file.stored ++ back).toArray⟩ ⟨file.record, file.offset, stop⟩ =
      .ok (front ++ file.header ++ asciiBytes file.name).length := by
  have place : Entry.place file.offset = .ok front.length := by
    have offset_le := isSound.offset_le
    unfold Entry.farthestOffset at offset_le
    unfold Entry.place Entry.offsetLimit Entry.farthestOffset
    rw [if_neg (by omega), if_neg (by omega), Int.toNat_natCast, isFront]
  have header : bytesAt ⟨(front ++ file.stored ++ back).toArray⟩ front.length Entry.headerSize =
      file.header := by
    have split := bytesAt_append front file.header (asciiBytes file.name ++ file.data ++ back)
    rw [isSound.length] at split
    simpa [StoredFile.stored, List.append_assoc] using split
  have name : bytesAt ⟨(front ++ file.stored ++ back).toArray⟩ (front.length + Entry.headerSize)
      (asciiBytes file.name).length = asciiBytes file.name := by
    have split := bytesAt_append (front ++ file.header) (asciiBytes file.name) (file.data ++ back)
    rw [List.length_append, isSound.length] at split
    simpa [StoredFile.stored, List.append_assoc] using split
  have size : ByteArray.size ⟨(front ++ file.stored ++ back).toArray⟩ =
      (front ++ file.stored).length + back.length := by
    simp [ByteArray.size, Nat.add_assoc]
  have sizes : (front ++ file.stored).length =
      front.length + Entry.headerSize + (asciiBytes file.name).length + file.data.length := by
    simp [StoredFile.stored, isSound.length, Nat.add_assoc]
  have start : (front ++ file.header ++ asciiBytes file.name).length =
      front.length + Entry.headerSize + (asciiBytes file.name).length := by
    rw [List.length_append, List.length_append, isSound.length]
  have inside : min (front.length + Entry.headerSize + (asciiBytes file.name).length + 0)
      ((front ++ file.stored).length + back.length) =
      front.length + Entry.headerSize + (asciiBytes file.name).length := by
    rw [sizes]
    omega
  have fits : ((front.length + Entry.headerSize + (asciiBytes file.name).length : Nat) : Int) +
      file.record.extent.compressedSize ≤ stop := by
    show _ + (file.data.length : Int) ≤ stop
    omega
  have flags : file.record.flags = utf8Flag := rfl
  have patched : hasFlag utf8Flag Entry.patchedFlag = false := by decide
  have strong : hasFlag utf8Flag Entry.strongEncryptionFlag = false := by decide
  have encrypted : hasFlag utf8Flag Entry.encryptedFlag = false := by decide
  have named : file.name = file.record.storedName := rfl
  unfold Entry.dataStart
  simp only [place, header, name, isSound.nameSize, isSound.named, isSound.noExtra, size, start, inside,
    isSound.length, isSound.marked, flags, patched, strong, encrypted, fits, ← named, Entry.demand, bind,
    Except.bind, Except.mapError, and_self, Bool.not_false, if_true, pure, Except.pure]

/-- An entry gives the data of its file, wherever the file stands in the archive. -/
theorem read_stored (platform : Platform) {file : StoredFile} (isSound : file.IsSound)
    {front : List UInt8} (isFront : front.length = file.offset) (back : List UInt8) {stop : Int}
    (ends : ((front ++ file.stored).length : Int) ≤ stop) :
    Entry.read platform ⟨(front ++ file.stored ++ back).toArray⟩ ⟨file.record, file.offset, stop⟩ =
      .ok ⟨file.data.toArray⟩ := by
  have start := dataStart_stored isSound isFront back ends
  have compressed : slice ⟨(front ++ file.stored ++ back).toArray⟩
      (front ++ file.header ++ asciiBytes file.name).length file.data.length =
      ⟨file.data.toArray⟩ := by
    have split := slice_append (front ++ file.header ++ asciiBytes file.name) file.data back
    simpa only [StoredFile.stored, List.append_assoc] using split
  have all : slice ⟨file.data.toArray⟩ 0 file.data.length = ⟨file.data.toArray⟩ := by
    have split := slice_append [] file.data []
    simpa only [List.nil_append, List.append_nil, List.length_nil] using split
  have size : file.record.extent.size = file.data.length := rfl
  have compressedSize : file.record.extent.compressedSize = file.data.length := rfl
  have complete : ¬ByteArray.size ⟨file.data.toArray⟩ < file.data.length := by simp [ByteArray.size]
  have checked : (Crc32.checksum ⟨file.data.toArray⟩).toNat = file.record.checksum := isSound.checked
  have method : Entry.unpacking platform file.record.method = .ok Entry.unpackStored := rfl
  unfold Entry.read
  simp only [start, method, size, compressedSize, compressed, all, complete, checked, Entry.unpackStored,
    Entry.demand, false_imp_iff, if_true, bind, Except.bind, pure, Except.pure]

theorem storedBytes_append (before after : List StoredFile) (file : StoredFile) :
    storedBytes (before ++ file :: after) = storedBytes after ++ file.stored ++ storedBytes before := by
  simp [storedBytes]

/-- Each file of an archive can be read in its place, which is behind the files that are listed later. -/
theorem read_storedFile (platform : Platform) {file : StoredFile} (isSound : file.IsSound)
    {files : List StoredFile} (before after : List StoredFile) (order : files = before ++ file :: after)
    (isPlace : (storedBytes after).length = file.offset) {stop : Int}
    (ends : ((file.offset + file.stored.length : Nat) : Int) ≤ stop) :
    Entry.read platform (storedArchive files) ⟨file.record, file.offset, stop⟩ =
      .ok ⟨file.data.toArray⟩ := by
  subst order
  have isInside : ((storedBytes after ++ file.stored).length : Int) ≤ stop := by
    rw [List.length_append, isPlace]
    exact ends
  have read := read_stored platform isSound isPlace (storedBytes before ++
    listedBytes (before ++ file :: after) ++ endBytes (before ++ file :: after)) isInside
  unfold storedArchive
  rw [storedBytes_append]
  simpa only [List.append_assoc] using read

end SurfaceDiff.Zip
