import SurfaceDiff.Crc32
import SurfaceDiff.Deflate.Inflate
import SurfaceDiff.Platform
import SurfaceDiff.Zip.Description

/-!
Contract: the data of one entry of a zip archive.

Owns: the checks of the local header, the choice of a decompressor and the checksum.
Does not own: the decompressors of bzip2 and LZMA, which belong to the platform.

Sizes and checksum are those of the directory; the local header only repeats the name. Data is cut
at its declared size and may be shorter.
-/

namespace SurfaceDiff.Zip

/-- Why an entry cannot be read although the archive is sound so far. -/
inductive EntryFault where
  | corruptData (cause : Deflate.Corruption)
  | endOfFile
  | encrypted (description : String)
  | patchedData
  | strongEncryption
  | unsupportedMethod
  | missingLibrary (name : String)
  | raised (cause : Raised)
deriving DecidableEq, Repr

/-- What is wrong with the entry, as far as its data tells. -/
def EntryFault.detail : EntryFault → String
  | corruptData cause => "Error -3 while decompressing data: " ++ cause.message
  | endOfFile => ""
  | encrypted description =>
    "File " ++ description ++ " is encrypted, password required for extraction"
  | patchedData => "compressed patched data (flag bit 5)"
  | strongEncryption => "strong encryption (flag bit 6)"
  | unsupportedMethod => "That compression method is not supported"
  | missingLibrary name => "Compression requires the (missing) " ++ name ++ " module"
  | raised cause => cause.message

inductive ReadError where
  | notAnArchive
  | invalidOffset
  | offsetTooLarge
  | undecodableName (cause : Text.Utf8.DecodeError)
  | unreadable (cause : EntryFault)
  | raised (cause : Raised)
deriving DecidableEq, Repr

namespace Entry

def headerMark : List UInt8 := signature 3 4

def headerSize : Nat := 30

def encryptedFlag : Nat := 0x1

def patchedFlag : Nat := 0x20

def strongEncryptionFlag : Nat := 0x40

/-- Offsets this far from the start of a file, to either side, are not even looked for. -/
def offsetLimit : Int := 0x8000000000000000

/-- No file reaches farther than this, 16 TiB less a block. -/
def farthestOffset : Int := 0xFFFFFFFF000

/-- Throws unless the rule holds. -/
def demand (rule : Prop) [Decidable rule] (error : ReadError) : Except ReadError Unit :=
  if rule then .ok () else .error error

/-- The place of an entry in the file, if there can be such a place. -/
def place (offset : Int) : Except ReadError Nat :=
  if offset < -offsetLimit ∨ offsetLimit ≤ offset then .error .offsetTooLarge
  else if offset < 0 ∨ farthestOffset < offset then .error .invalidOffset
  else .ok offset.toNat

/-- Checks the local header against the directory and gives the place of the data. -/
def dataStart (content : ByteArray) (entry : Located) : Except ReadError Nat := do
  let offset ← place entry.offset
  let header := bytesAt content offset headerSize
  demand (header.length = headerSize ∧ header.take 4 = headerMark) .notAnArchive
  let name := bytesAt content (offset + headerSize) (field header 26 2)
  let flags := entry.record.flags
  demand (!hasFlag flags patchedFlag) (.unreadable .patchedData)
  demand (!hasFlag flags strongEncryptionFlag) (.unreadable .strongEncryption)
  let localName ← (decodeName (field header 6 2) name).mapError .undecodableName
  demand (localName = entry.record.storedName) .notAnArchive
  let start := min (offset + headerSize + name.length + field header 28 2) content.size
  demand ((start : Int) + entry.record.extent.compressedSize ≤ entry.stop) .notAnArchive
  demand (!hasFlag flags encryptedFlag) (.unreadable (.encrypted entry.record.description))
  return start

/-- Decodes what the file holds of the compressed data. The flag tells whether the data is known to
end there. -/
abbrev Unpacking := ByteArray → Except ReadError (ByteArray × Bool)

/-- Plain bytes never say whether they are all. -/
def unpackStored : Unpacking := fun compressed =>
  .ok (compressed, false)

def unpackDeflated : Unpacking := fun compressed =>
  match Deflate.inflate compressed with
  | .ok inflated => .ok (inflated.output, inflated.isComplete)
  | .error cause => .error (.unreadable (.corruptData cause))

def unpackWith (decompress : Decompressor) : Unpacking := fun compressed =>
  (decompress compressed).mapError .raised

/-- Unpacks with a library that the platform may have. -/
def ofLibrary (name : String) : Option Decompressor → Except ReadError Unpacking
  | some decompress => .ok (unpackWith decompress)
  | none => .error (.unreadable (.missingLibrary name))

/-- How entries are unpacked that are stored by this method. -/
def unpacking (platform : Platform) (method : Nat) : Except ReadError Unpacking :=
  match method with
  | 0 => .ok unpackStored
  | 8 => .ok unpackDeflated
  | 12 => ofLibrary "bz2" platform.bzip2
  | 14 => ofLibrary "lzma" platform.lzma
  | _ => .error (.unreadable .unsupportedMethod)

/-- The data of the entry. -/
def read (platform : Platform) (content : ByteArray) (entry : Located) :
    Except ReadError ByteArray := do
  let start ← dataStart content entry
  let extent := entry.record.extent
  let unpack ← unpacking platform entry.record.method
  let compressed := slice content start extent.compressedSize
  let isMissing := compressed.size < extent.compressedSize
  demand (isMissing → compressed.size ≠ 0) (.unreadable .endOfFile)
  let (unpacked, isComplete) ← unpack compressed
  let data := slice unpacked 0 extent.size
  demand (isMissing → isComplete ∨ extent.size ≤ data.size) (.unreadable .endOfFile)
  demand ((Crc32.checksum data).toNat = entry.record.checksum) .notAnArchive
  return data

end Entry

end SurfaceDiff.Zip
