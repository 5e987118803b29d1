import SurfaceDiff.Text.CodePage.Table
import SurfaceDiff.Text.Encoding.Name
import SurfaceDiff.Text.Utf8
import SurfaceDiff.Text.Wide

/-!
Contract: encodings of texts, by name.

Owns: the encoding of a name, what bytes say in it, and the wording of what goes wrong.

Escapes and shifts of encodings that have them are not looked at, and of the encodings of East Asia
with tables of their own only the ASCII is covered: other characters are read as UTF-8.
-/

namespace SurfaceDiff.Text

inductive Encoding where
  | utf8
  /-- A byte order mark in front does not belong to the text. -/
  | markedUtf8
  | utf16 (order : ByteOrder)
  | utf32 (order : ByteOrder)
  /-- A byte order mark has to say the order of the bytes. -/
  | markedUtf16
  | markedUtf32
  | latin1
  /-- Bytes above those of ASCII are refused, under a name and for a reason. -/
  | sevenBit (name reason : String)
  | codePage (page : CodePage)
  /-- The encoding that refuses every text. -/
  | undefined

namespace Encoding

inductive Fault where
  /-- The name holds a NUL. -/
  | brokenName
  | unknownName (name : String)
  /-- The name is that of a coding of data, not of texts. -/
  | notForTexts (name : String)
  | undecodable (cause : Undecodable)
  /-- A text in units of so many bits has no byte order mark. -/
  | unmarked (bits : Nat)
  | undefined
deriving DecidableEq, Repr

def Fault.message : Fault → String
  | brokenName => "embedded null character"
  | unknownName name => s!"unknown encoding: {name}"
  | notForTexts name =>
    s!"'{name}' is not a text encoding; use codecs.open() to handle arbitrary codecs"
  | undecodable cause => cause.message
  | unmarked bits => s!"UTF-{bits} stream does not start with BOM"
  | undefined => "undefined encoding"

/-- Families that code data, not texts. -/
def dataFamilies : List String := [
  "base64_codec", "bz2_codec", "hex_codec", "quopri_codec", "rot_13", "uu_codec", "zlib_codec"]

def latin1Families : List String := [
  "latin_1", "iso8859_1", "charmap", "raw_unicode_escape", "unicode_escape"]

/-- Families that are ASCII with escapes, and refuse other bytes in their own name. -/
def shiftedFamilies : List String := [
  "hz", "iso2022_jp", "iso2022_jp_1", "iso2022_jp_2", "iso2022_jp_2004", "iso2022_jp_3",
  "iso2022_jp_ext", "iso2022_kr"]

/-- Families that are ASCII, or that name hosts in it. -/
def asciiFamilies : List String := ["ascii", "idna", "punycode"]

def ofFamily (family : String) : Encoding :=
  if family ∈ latin1Families then .latin1
  else if family ∈ asciiFamilies then .sevenBit "ascii" "ordinal not in range(128)"
  else if family ∈ shiftedFamilies then .sevenBit family "illegal multibyte sequence"
  else match family with
    | "utf_7" => .sevenBit "utf7" "unexpected special character"
    | "utf_8_sig" => .markedUtf8
    | "utf_16" => .markedUtf16
    | "utf_16_le" => .utf16 .littleEndian
    | "utf_16_be" => .utf16 .bigEndian
    | "utf_32" => .markedUtf32
    | "utf_32_le" => .utf32 .littleEndian
    | "utf_32_be" => .utf32 .bigEndian
    | "undefined" => .undefined
    | _ => ((CodePage.ofName? family).map codePage).getD .utf8

/-- The name that stands for the encoding of the surroundings, which is UTF-8. -/
def surroundingsName : String := "locale"

/-- The encoding of a name. -/
def ofName (name : String) : Except Fault Encoding :=
  if '\x00' ∈ name.toList then .error .brokenName
  else if name = surroundingsName then .ok .utf8
  else match family? name with
    | none => .error (.unknownName name)
    | some family =>
      if family ∈ dataFamilies then .error (.notForTexts name) else .ok (ofFamily family)

def markOfUtf8 : List UInt8 := [0xEF, 0xBB, 0xBF]

/-- The bytes behind a mark; a mark that is cut off says nothing. -/
def withoutMark (mark bytes : List UInt8) : List UInt8 :=
  if bytes.isPrefixOf mark then []
  else if mark.isPrefixOf bytes then bytes.drop mark.length
  else bytes

def decodeUtf8 (bytes : List UInt8) : Except Fault String :=
  (Utf8.decode bytes).mapError fun cause => .undecodable cause.undecodable

/-- Reads numbers of so many bits in the order that a mark in front says. Without a mark, the bytes
are still checked, in the usual order. -/
def decodeMarked (bits : Nat) (decodeAt : ByteOrder → Nat → List UInt8 → Except Undecodable String)
    (bytes : List UInt8) : Except Fault String :=
  let hasMark (order : ByteOrder) := (order.mark (bits / 8)).isPrefixOf bytes
  match [ByteOrder.littleEndian, .bigEndian].find? hasMark with
  | some order => (decodeAt order (bits / 8) (bytes.drop (bits / 8))).mapError .undecodable
  | none => do
    let text ← (decodeAt .littleEndian 0 bytes).mapError .undecodable
    if text = "" then .ok text else .error (.unmarked bits)

/-- What bytes say. -/
def decode (encoding : Encoding) (bytes : List UInt8) : Except Fault String :=
  match encoding with
  | utf8 => decodeUtf8 bytes
  | markedUtf8 => decodeUtf8 (withoutMark markOfUtf8 bytes)
  | utf16 order => (Utf16.decode order 0 bytes).mapError .undecodable
  | utf32 order => (Utf32.decode order 0 bytes).mapError .undecodable
  | markedUtf16 => decodeMarked 16 Utf16.decode bytes
  | markedUtf32 => decodeMarked 32 Utf32.decode bytes
  | latin1 => .ok (String.ofList (bytes.map fun byte => Char.ofNat byte.toNat))
  | sevenBit name reason =>
    match Undecodable.find? name reason (· < 0x80) bytes with
    | some cause => .error (.undecodable cause)
    | none => .ok (String.ofList (bytes.map fun byte => Char.ofNat byte.toNat))
  | codePage page => (page.decode bytes).mapError .undecodable
  | undefined => .error .undefined

end Encoding

end SurfaceDiff.Text
