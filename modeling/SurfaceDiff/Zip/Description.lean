import SurfaceDiff.Text.Quoted
import SurfaceDiff.Zip.Directory

/-!
Contract: the description of an entry that messages show.

Owns: the names of the methods of storage, and the file mode in letters.

Only files are described. What has its default is left out: the method of plain storage, a mode or
attributes of zero, and a compressed size that the size gives already.
-/

namespace SurfaceDiff.Zip

/-- The name of a method of storage; one without a name is given by its number. -/
def methodName : Nat → String
  | 0 => "store"
  | 1 => "shrink"
  | 2 | 3 | 4 | 5 => "reduce"
  | 6 | 10 => "implode"
  | 7 => "tokenize"
  | 8 => "deflate"
  | 9 => "deflate64"
  | 12 => "bzip2"
  | 14 => "lzma"
  | 18 => "terse"
  | 19 => "lz77"
  | 97 => "wavpack"
  | 98 => "ppmd"
  | method => toString method

namespace FileMode

/-- The letter for the kind of file, which the four highest of the 16 bits give. -/
def kindLetter (mode : Nat) : Char :=
  match mode / 0x1000 with
  | 0x8 => '-'
  | 0x4 => 'd'
  | 0xA => 'l'
  | 0x6 => 'b'
  | 0x2 => 'c'
  | 0x1 => 'p'
  | 0xC => 's'
  | _ => '?'

/-- The letters for reading, writing and executing. A special bit changes the last letter, to a
capital if execution is not allowed. -/
def permissions (bits : Nat) (special : Bool) (both only : Char) : List Char :=
  let executable := hasFlag bits 1
  [ if hasFlag bits 4 then 'r' else '-',
    if hasFlag bits 2 then 'w' else '-',
    if special then (if executable then both else only) else if executable then 'x' else '-' ]

/-- The kind of file, then the permissions of its owner, its group and all others. -/
def letters (mode : Nat) : String :=
  String.ofList (kindLetter mode ::
    permissions (mode / 0o100) (hasFlag mode 0o4000) 's' 'S' ++
    permissions (mode / 0o10) (hasFlag mode 0o2000) 's' 'S' ++
    permissions mode (hasFlag mode 0o1000) 't' 'T')

end FileMode

namespace Record

/-- The parts of the description in which the record differs from the default. -/
def remarks (record : Record) : List String :=
  let mode := record.attributes / 0x10000
  let attributes := record.attributes % 0x10000
  let extent := record.extent
  (if record.method = 0 then [] else ["compress_type=" ++ methodName record.method]) ++
    (if mode = 0 then [] else ["filemode='" ++ FileMode.letters mode ++ "'"]) ++
    (if attributes = 0 then []
      else ["external_attr=0x" ++ String.ofList (Nat.toDigits 16 attributes)]) ++
    [s!"file_size={extent.size}"] ++
    (if record.method = 0 ∧ extent.size = extent.compressedSize then []
      else [s!"compress_size={extent.compressedSize}"])

def description (record : Record) : String :=
  " ".intercalate (("<ZipInfo filename=" ++ Text.Quoted.encodeString record.name) :: record.remarks)
    ++ ">"

end Record

end SurfaceDiff.Zip
