import SurfaceDiff.Deflate.Bits

/-!
Contract: canonical Huffman codes, given by the lengths of their code words.

Owns: building a code, which lengths make one, and decoding a symbol.

Within one length, code words go up with their symbols, and shorter words come first.
-/

namespace SurfaceDiff.Deflate

/-- The number of words of each length from 1 on, and the symbols in the order of their words. -/
structure Code where
  counts : List Nat
  symbols : Array Nat

namespace Code

/-- The words still free after all words of the code are taken; negative if too many are. -/
def unused (counts : List Nat) : Int :=
  counts.foldl (fun (free : Int) (count : Nat) => 2 * free - count) 1

/-- The code of these lengths; symbol `n` has the `n`th length, and length 0 means no word. -/
def ofLengths (lengths : List Nat) : Code :=
  let longest := max 1 (lengths.foldl max 0)
  let sizes := (List.range longest).map (· + 1)
  { counts := sizes.map fun size => lengths.count size
    symbols := (sizes.flatMap fun size =>
      (lengths.zipIdx.filter fun (length, _) => length = size).map Prod.snd).toArray }

def IsEmpty (code : Code) : Prop := code.symbols.size = 0

instance (code : Code) : Decidable code.IsEmpty := by
  unfold IsEmpty
  infer_instance

/-- Every bit string starts with a word, or the code is empty. -/
def IsComplete (code : Code) : Prop := unused code.counts = 0 ∨ code.IsEmpty

instance (code : Code) : Decidable code.IsComplete := by
  unfold IsComplete
  infer_instance

/-- Complete, or with a single word, of one bit. -/
def IsUsable (code : Code) : Prop :=
  code.IsComplete ∨ (0 < unused code.counts ∧ code.counts.length ≤ 1)

instance (code : Code) : Decidable code.IsUsable := by
  unfold IsUsable
  infer_instance

/-- Reads bit after bit until they are a word; `none` when no word is that long. -/
def decodeFrom (code : Code) (bits first earlier : Nat) : List Nat → Decoder (Option Nat)
  | [] => return none
  | count :: counts => do
    let bits := 2 * bits + (← Decoder.number 1)
    if bits < first + count then
      return code.symbols[earlier + (bits - first)]?
    else
      decodeFrom code bits (2 * (first + count)) (earlier + count) counts

def decode? (code : Code) : Decoder (Option Nat) :=
  decodeFrom code 0 0 0 code.counts

/-- Reads a word of the code; bits that start none break the rule `cause`. -/
def decode (code : Code) (cause : Corruption) : Decoder Nat := do
  match ← code.decode? with
  | some symbol => return symbol
  | none => throw (.corrupt cause)

end Code

end SurfaceDiff.Deflate
