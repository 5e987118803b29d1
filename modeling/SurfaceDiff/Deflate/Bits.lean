/-!
Contract: reading bits from bytes, the lowest bit of each byte first.

Owns: the decoder's state, its monad, the reading of bits, and the rules that a stream can break.

A read that the remaining bits cannot serve ends the decoding and takes nothing; what was decoded
until then stays in the state.
-/

namespace SurfaceDiff.Deflate

/-- The rule that a stream breaks. -/
inductive Corruption where
  | blockType
  | storedLengths
  | tooManySymbols
  | codeLengthSet
  | lengthRepeat
  | noEndOfBlock
  | literalSet
  | distanceSet
  | literalCode
  | distanceCode
  | distanceTooFar
deriving DecidableEq, Repr

def Corruption.message : Corruption → String
  | blockType => "invalid block type"
  | storedLengths => "invalid stored block lengths"
  | tooManySymbols => "too many length or distance symbols"
  | codeLengthSet => "invalid code lengths set"
  | lengthRepeat => "invalid bit length repeat"
  | noEndOfBlock => "invalid code -- missing end-of-block"
  | literalSet => "invalid literal/lengths set"
  | distanceSet => "invalid distances set"
  | literalCode => "invalid literal/length code"
  | distanceCode => "invalid distance code"
  | distanceTooFar => "invalid distance too far back"

/-- Why decoding ends early: the input stops, or it is no deflate stream. -/
inductive Halt where
  | exhausted
  | corrupt (cause : Corruption)
deriving DecidableEq, Repr

/-- The place of the next bit in the input, and the bytes decoded so far. -/
structure State where
  position : Nat := 0
  output : ByteArray := .empty

/-- Decoding of one input; the state outlives an early end. -/
abbrev Decoder (α : Type) := ReaderT ByteArray (ExceptT Halt (StateM State)) α

namespace Decoder

def bitAt (input : ByteArray) (position : Nat) : Nat :=
  if inside : position / 8 < input.size then
    input[position / 8].toNat >>> (position % 8) % 2
  else
    0

/-- The number that `count` bits from `position` on write, the lowest first. -/
def numberAt (input : ByteArray) (position : Nat) : Nat → Nat
  | 0 => 0
  | count + 1 => bitAt input position + 2 * numberAt input (position + 1) count

def number (count : Nat) : Decoder Nat := do
  let input ← read
  let position := (← get).position
  if position + count ≤ input.size * 8 then
    modify fun state => { state with position := position + count }
    return numberAt input position count
  else
    throw .exhausted

/-- Throws when a rule of the format does not hold. -/
def demand (rule : Prop) [Decidable rule] (cause : Corruption) : Decoder Unit :=
  if rule then return () else throw (.corrupt cause)

/-- Moves on to the start of the next byte. -/
def alignToByte : Decoder Unit :=
  modify fun state => { state with position := (state.position + 7) / 8 * 8 }

def put (byte : UInt8) : Decoder Unit :=
  modify fun state => { state with output := state.output.push byte }

/-- Appends `length` bytes, each a copy of the one `distance` bytes before it. -/
def copyBack (distance : Nat) : Nat → ByteArray → ByteArray
  | 0, output => output
  | length + 1, output =>
    let source := output.size - distance
    let byte := if inside : source < output.size then output[source] else 0
    copyBack distance length (output.push byte)

def repeatBack (distance length : Nat) : Decoder Unit := do
  demand (distance ≤ (← get).output.size) .distanceTooFar
  modify fun state => { state with output := copyBack distance length state.output }

/-- Appends the next `length` input bytes, or as many as there are. -/
def copyInput (length : Nat) : Decoder Unit := do
  let input ← read
  let start := (← get).position / 8
  let stop := min (start + length) input.size
  modify fun state =>
    { state with position := stop * 8, output := state.output ++ input.extract start stop }
  if stop < start + length then throw .exhausted

end Decoder

end SurfaceDiff.Deflate
