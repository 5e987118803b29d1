import SurfaceDiff.Deflate.Huffman

/-!
Contract: decompression of raw deflate streams.

Owns: the three kinds of block and `inflate`.

Bytes after the last block are ignored. A stream that just stops yields what can be decoded of it;
one that breaks a rule of the format yields nothing.
-/

namespace SurfaceDiff.Deflate

/-- The shortest length of each length symbol from 257 on. -/
def lengthBases : Array Nat :=
  #[3, 4, 5, 6, 7, 8, 9, 10, 11, 13, 15, 17, 19, 23, 27, 31, 35, 43, 51, 59, 67, 83, 99, 115, 131,
    163, 195, 227, 258]

/-- How many bits are added to each length. -/
def lengthExtras : Array Nat :=
  #[0, 0, 0, 0, 0, 0, 0, 0, 1, 1, 1, 1, 2, 2, 2, 2, 3, 3, 3, 3, 4, 4, 4, 4, 5, 5, 5, 5, 0]

/-- The shortest distance of each distance symbol. -/
def distanceBases : Array Nat :=
  #[1, 2, 3, 4, 5, 7, 9, 13, 17, 25, 33, 49, 65, 97, 129, 193, 257, 385, 513, 769, 1025, 1537,
    2049, 3073, 4097, 6145, 8193, 12289, 16385, 24577]

/-- How many bits are added to each distance. -/
def distanceExtras : Array Nat :=
  #[0, 0, 0, 0, 1, 1, 2, 2, 3, 3, 4, 4, 5, 5, 6, 6, 7, 7, 8, 8, 9, 9, 10, 10, 11, 11, 12, 12, 13,
    13]

/-- A base with the bits added to it; a symbol without a base breaks the rule `cause`. -/
def extended (bases extras : Array Nat) (index : Nat) (cause : Corruption) : Decoder Nat := do
  match bases[index]?, extras[index]? with
  | some base, some extra => return base + (← Decoder.number extra)
  | _, _ => throw (.corrupt cause)

/-- Decodes symbols up to the end of the block, but no more than `limit`. -/
def readSymbols (literals distances : Code) : Nat → Decoder Unit
  | 0 => throw .exhausted
  | limit + 1 => do
    let symbol ← literals.decode .literalCode
    if symbol < 256 then
      Decoder.put symbol.toUInt8
      readSymbols literals distances limit
    else if symbol = 256 then
      return ()
    else
      let length ← extended lengthBases lengthExtras (symbol - 257) .literalCode
      let distanceSymbol ← distances.decode .distanceCode
      let distance ← extended distanceBases distanceExtras distanceSymbol .distanceCode
      Decoder.repeatBack distance length
      readSymbols literals distances limit

/-- Every symbol takes a bit at least. -/
def symbolLimit : Decoder Nat := do
  return (← read).size * 8 + 1

def readCompressed (literals distances : Code) : Decoder Unit := do
  readSymbols literals distances (← symbolLimit)

/-- A block of plain bytes, whose length is given twice, the second time complemented. -/
def readStored : Decoder Unit := do
  Decoder.alignToByte
  let lengths ← Decoder.number 32
  let length := lengths % 0x10000
  Decoder.demand (length + lengths / 0x10000 = 0xFFFF) .storedLengths
  Decoder.copyInput length

def fixedLiterals : Code :=
  .ofLengths (List.replicate 144 8 ++ List.replicate 112 9 ++ List.replicate 24 7 ++
    List.replicate 8 8)

def fixedDistances : Code :=
  .ofLengths (List.replicate 32 5)

/-- The order in which the lengths of the code for lengths are given. -/
def lengthOrder : List Nat :=
  [16, 17, 18, 0, 8, 7, 9, 6, 10, 5, 11, 4, 12, 3, 13, 2, 14, 1, 15]

/-- Reads the given number of three-bit lengths. -/
def readOrdered : Nat → List Nat → Decoder (List Nat)
  | 0, lengths => return lengths.reverse
  | count + 1, lengths => do readOrdered count ((← Decoder.number 3) :: lengths)

/-- The code for lengths; lengths that are not given are 0. -/
def readLengthCode (count : Nat) : Decoder Code := do
  let given := lengthOrder.zip (← readOrdered count [])
  return .ofLengths ((List.range 19).map fun symbol => (given.lookup symbol).getD 0)

/-- How a repeat symbol goes on: the length to repeat and how often. -/
def readRepeat (symbol : Nat) (lengths : Array Nat) : Decoder (Nat × Nat) := do
  if symbol = 16 then
    match lengths.back? with
    | some last => return (last, 3 + (← Decoder.number 2))
    | none =>
      let _ ← Decoder.number 2
      throw (.corrupt .lengthRepeat)
  else if symbol = 17 then
    return (0, 3 + (← Decoder.number 3))
  else
    return (0, 11 + (← Decoder.number 7))

/-- Reads lengths until there are `total`; a repeat must not go beyond. An empty code stands for
zeros of one bit each. -/
def readLengths (code : Code) (total : Nat) : Nat → Array Nat → Decoder (Array Nat)
  | 0, lengths => return lengths
  | limit + 1, lengths => do
    if total ≤ lengths.size then
      return lengths
    else
      let symbol := (← code.decode?).getD 0
      if symbol < 16 then
        readLengths code total limit (lengths.push symbol)
      else
        let (length, times) ← readRepeat symbol lengths
        Decoder.demand (lengths.size + times ≤ total) .lengthRepeat
        readLengths code total limit (lengths ++ Array.replicate times length)

/-- A block that brings its own codes. -/
def readDynamic : Decoder Unit := do
  let header ← Decoder.number 14
  let literalCount := header % 0x20 + 257
  let distanceCount := header / 0x20 % 0x20 + 1
  Decoder.demand (literalCount ≤ 286 ∧ distanceCount ≤ 30) .tooManySymbols
  let lengthCode ← readLengthCode (header / 0x400 + 4)
  Decoder.demand lengthCode.IsComplete .codeLengthSet
  let total := literalCount + distanceCount
  let lengths := (← readLengths lengthCode total total #[]).toList
  Decoder.demand (lengths.getD 256 0 ≠ 0) .noEndOfBlock
  let literals := Code.ofLengths (lengths.take literalCount)
  Decoder.demand literals.IsUsable .literalSet
  let distances := Code.ofLengths (lengths.drop literalCount)
  Decoder.demand distances.IsUsable .distanceSet
  readCompressed literals distances

/-- Decodes a block and tells whether it is the last one. -/
def readBlock : Decoder Bool := do
  let isLast := (← Decoder.number 1) = 1
  match ← Decoder.number 2 with
  | 0 => readStored
  | 1 => readCompressed fixedLiterals fixedDistances
  | 2 => readDynamic
  | _ => throw (.corrupt .blockType)
  return isLast

/-- Decodes blocks up to the last one, but no more than `limit`. -/
def readBlocks : Nat → Decoder Unit
  | 0 => throw .exhausted
  | limit + 1 => do
    if ← readBlock then
      return ()
    else
      readBlocks limit

/-- Decompressed bytes; a stream that just stops is not complete. -/
structure Inflated where
  output : ByteArray
  isComplete : Bool

/-- The decompressed bytes, or the first rule that the input breaks. -/
def inflate (input : ByteArray) : Except Corruption Inflated :=
  match (readBlocks (input.size * 8 + 1)).run input |>.run {} with
  | (.ok (), state) => .ok ⟨state.output, true⟩
  | (.error .exhausted, state) => .ok ⟨state.output, false⟩
  | (.error (.corrupt cause), _) => .error cause

end SurfaceDiff.Deflate
