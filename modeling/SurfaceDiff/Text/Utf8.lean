import SurfaceDiff.Text.Undecodable

/-!
Contract: strict UTF-8, with the place and the kind of the first error.

Owns: the decoder and the wording of its errors.

An error covers the longest start of a well-formed character: a byte that starts none, a start
that a wrong byte follows, or a start at which the input ends.
-/

namespace SurfaceDiff.Text.Utf8

inductive ErrorKind where
  | invalidStart
  | invalidContinuation
  | unexpectedEnd
deriving DecidableEq, Repr

/-- The first error: `count` bytes from `offset` on, the first of them `byte`. -/
structure DecodeError where
  kind : ErrorKind
  byte : UInt8
  offset : Nat
  count : Nat
deriving DecidableEq, Repr

def ErrorKind.message : ErrorKind → String
  | .invalidStart => "invalid start byte"
  | .invalidContinuation => "invalid continuation byte"
  | .unexpectedEnd => "unexpected end of data"

def DecodeError.undecodable (error : DecodeError) : Undecodable :=
  ⟨"utf-8", error.byte, error.offset, error.count, error.kind.message⟩

def DecodeError.message (error : DecodeError) : String :=
  error.undecodable.message

/-- How many bytes follow the first byte of a character; `none` for a byte that starts none. -/
def continuationCount? (start : UInt8) : Option Nat :=
  if start < 0x80 then some 0
  else if 0xC2 ≤ start ∧ start ≤ 0xDF then some 1
  else if 0xE0 ≤ start ∧ start ≤ 0xEF then some 2
  else if 0xF0 ≤ start ∧ start ≤ 0xF4 then some 3
  else none

/-- The second bytes that keep clear of overlong forms, surrogates and values above the range. -/
def IsSecond (start second : UInt8) : Prop :=
  (if start = 0xE0 then 0xA0 else if start = 0xF0 then 0x90 else 0x80) ≤ second ∧
    second ≤ (if start = 0xED then 0x9F else if start = 0xF4 then 0x8F else 0xBF)

instance (start second : UInt8) : Decidable (IsSecond start second) := by
  unfold IsSecond
  infer_instance

def IsContinuation (byte : UInt8) : Prop := 0x80 ≤ byte ∧ byte ≤ 0xBF

instance (byte : UInt8) : Decidable (IsContinuation byte) := by
  unfold IsContinuation
  infer_instance

/-- How many of the bytes after `start` can belong to its character. -/
def goodContinuations (start : UInt8) : List UInt8 → Nat
  | [] => 0
  | second :: rest =>
    if IsSecond start second then
      1 + (rest.takeWhile fun byte => decide (IsContinuation byte)).length
    else
      0

/-- The value of a character: the payload of the first byte, then six bits a byte. -/
def value (start : UInt8) (continuations : List UInt8) : Nat :=
  let payload := start.toNat % (if continuations = [] then 0x80 else 0x40 >>> continuations.length)
  continuations.foldl (fun value byte => value * 0x40 + byte.toNat % 0x40) payload

/-- Reads character after character; `text` holds the earlier ones, the last one first. -/
def decodeAt (offset : Nat) (text : List Char) : List UInt8 → Except DecodeError (List Char)
  | [] => .ok text.reverse
  | start :: rest =>
    match continuationCount? start with
    | none => .error ⟨.invalidStart, start, offset, 1⟩
    | some needed =>
      let good := goodContinuations start (rest.take needed)
      if good < needed then
        let kind := if good < rest.length then ErrorKind.invalidContinuation else .unexpectedEnd
        .error ⟨kind, start, offset, good + 1⟩
      else
        let character := Char.ofNat (value start (rest.take needed))
        decodeAt (offset + needed + 1) (character :: text) (rest.drop needed)
termination_by bytes => bytes.length
decreasing_by simp only [List.length_drop, List.length_cons]; omega

def decode (bytes : List UInt8) : Except DecodeError String :=
  (decodeAt 0 [] bytes).map String.ofList

end SurfaceDiff.Text.Utf8
