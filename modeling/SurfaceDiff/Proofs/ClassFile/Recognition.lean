import Mathlib.Data.List.Forall2
import SurfaceDiff.Proofs.ClassFile.Number

/-!
Contract: readers as recognisers of byte grammars.

Owns: `Recognises`, which ties a reader to the words it accepts in both directions at once, its rules
for sequences and repetitions, and the words of the primitives.
Does not own: the words of any part of a class file.

A reader recognises a grammar when it succeeds on exactly the inputs that start with a word, takes
that word and nothing else, and gives the value of the word. What follows the word is arbitrary, so
recognisers can be put one after the other.
-/

namespace SurfaceDiff.ClassFile

/-! ## Recognisers -/

variable {α β : Type}

/-- The reader takes a word of the grammar off the front and gives its value; there is no other way
for it to succeed, and where it fails it blames the bytes. -/
structure Recognises (reader : Reader α) (Word : List UInt8 → α → Prop) : Prop where
  accepts : ∀ cursor value next, reader cursor = .ok (value, next) ↔
    ∃ bytes, Word bytes value ∧ cursor.rest = bytes ++ next.rest ∧
      next.offset = cursor.offset + bytes.length
  blames : ∀ cursor fault, reader cursor = .error fault → ∃ cause, fault = .format cause

theorem bind_apply (reader : Reader α) (next : α → Reader β) (cursor : Cursor) :
    (reader >>= next) cursor = (reader cursor).bind fun pair => next pair.1 pair.2 :=
  rfl

theorem bind_eq_ok_iff (reader : Reader α) (next : α → Reader β) (cursor final : Cursor)
    (result : β) :
    (reader >>= next) cursor = .ok (result, final) ↔
      ∃ value middle, reader cursor = .ok (value, middle) ∧
        next value middle = .ok (result, final) := by
  rw [bind_apply]
  cases reader cursor with
  | error cause => simp [Except.bind]
  | ok pair => simp [Except.bind, Prod.ext_iff]

namespace Recognises

variable {reader : Reader α} {Word : List UInt8 → α → Prop}

theorem congr {Other : List UInt8 → α → Prop} (recognises : Recognises reader Word)
    (same : ∀ bytes value, Word bytes value ↔ Other bytes value) : Recognises reader Other := by
  have equal : Word = Other := funext₂ fun bytes value => propext (same bytes value)
  exact equal ▸ recognises

theorem pure (value : α) :
    Recognises (Pure.pure value) fun bytes result => bytes = [] ∧ result = value where
  accepts := by
    intro cursor result final
    obtain ⟨rest, offset⟩ := cursor
    obtain ⟨finalRest, finalOffset⟩ := final
    have unfolded : (Pure.pure value : Reader α) ⟨rest, offset⟩ = .ok (value, ⟨rest, offset⟩) := rfl
    rw [unfolded]
    constructor
    · intro same
      cases same
      exact ⟨[], ⟨rfl, rfl⟩, rfl, rfl⟩
    · intro read
      rcases read with ⟨_, ⟨rfl, rfl⟩, sameRest, sameOffset⟩
      simp_all
  blames := nofun

/-- A reader that always fails has no words. -/
theorem fail (cause : FormatError) :
    Recognises (Reader.fail cause : Reader α) fun _ _ => False where
  accepts := by
    intro cursor result final
    have unfolded : (Reader.fail cause : Reader α) cursor = .error (.format cause) := rfl
    simp [unfolded]
  blames := fun _ _ failed => ⟨cause, (Except.error.inj failed).symm⟩

/-- A sequence recognises the concatenations of the words of its parts. -/
theorem bind {next : α → Reader β} {Next : α → List UInt8 → β → Prop}
    (first : Recognises reader Word) (second : ∀ value, Recognises (next value) (Next value)) :
    Recognises (reader >>= next) fun bytes result => ∃ value front back,
      Word front value ∧ Next value back result ∧ bytes = front ++ back where
  accepts := by
    intro cursor result final
    rw [bind_eq_ok_iff]
    constructor
    · intro read
      rcases read with ⟨value, middle, isFirst, isSecond⟩
      obtain ⟨front, word, frontRest, frontOffset⟩ := (first.accepts _ _ _).mp isFirst
      obtain ⟨back, nextWord, backRest, backOffset⟩ := ((second value).accepts _ _ _).mp isSecond
      refine ⟨front ++ back, ⟨value, front, back, word, nextWord, rfl⟩, ?_, ?_⟩
      · rw [frontRest, backRest, List.append_assoc]
      · rw [backOffset, frontOffset, List.length_append, Nat.add_assoc]
    · intro written
      rcases written with ⟨_, ⟨value, front, back, word, nextWord, rfl⟩, rest, offset⟩
      refine ⟨value, ⟨back ++ final.rest, cursor.offset + front.length⟩, ?_, ?_⟩
      · exact (first.accepts _ _ _).mpr ⟨front, word, by rw [rest, List.append_assoc], rfl⟩
      · refine ((second value).accepts _ _ _).mpr ⟨back, nextWord, rfl, ?_⟩
        rw [offset, List.length_append, Nat.add_assoc]
  blames := by
    intro cursor fault failed
    rw [bind_apply] at failed
    cases front : reader cursor with
    | error cause =>
        rw [front] at failed
        have same : cause = fault := Except.error.inj failed
        exact first.blames cursor fault (same ▸ front)
    | ok pair =>
        rw [front] at failed
        exact (second pair.1).blames pair.2 fault failed

/-- Where a reader stands is no part of what it recognises. -/
theorem offset_bind {next : Nat → Reader α} (second : ∀ offset, Recognises (next offset) Word) :
    Recognises (Reader.offset >>= next) Word where
  accepts := fun cursor => (second cursor.offset).accepts cursor
  blames := fun cursor => (second cursor.offset).blames cursor

theorem ite {condition : Prop} [Decidable condition] {other : Reader α}
    {Other : List UInt8 → α → Prop} (positive : condition → Recognises reader Word)
    (negative : ¬condition → Recognises other Other) :
    Recognises (if condition then reader else other) fun bytes value =>
      if condition then Word bytes value else Other bytes value := by
  by_cases holds : condition
  · simpa only [if_pos holds] using positive holds
  · simpa only [if_neg holds] using negative holds

end Recognises

/-! ## The primitives -/

theorem take?_eq_some_iff (count : Nat) (cursor next : Cursor) (chunk : List UInt8) :
    cursor.take? count = some (chunk, next) ↔
      chunk.length = count ∧ cursor.rest = chunk ++ next.rest ∧
        next.offset = cursor.offset + chunk.length := by
  obtain ⟨rest, offset⟩ := cursor
  obtain ⟨nextRest, nextOffset⟩ := next
  unfold Cursor.take?
  constructor
  · intro taken
    dsimp only at taken
    split at taken
    case isTrue enough =>
      obtain ⟨rfl, same⟩ := Prod.mk.inj (Option.some.inj taken)
      obtain ⟨rfl, rfl⟩ := Cursor.mk.inj same
      exact ⟨enough, (List.take_append_drop count rest).symm, by rw [enough]⟩
    case isFalse => cases taken
  · intro written
    rcases written with ⟨rfl, split, moved⟩
    simp only at split moved
    simp [split, moved]

theorem recognises_block (size : Nat) :
    Recognises (Reader.block size) fun bytes value => bytes.length = size ∧ value = bytes where
  accepts := by
    intro cursor value next
    have taken : Reader.block size cursor = .ok (value, next) ↔
        cursor.take? size = some (value, next) := by
      unfold Reader.block
      cases cursor.take? size with
      | none => simp
      | some pair => simp [Prod.ext_iff]
    rw [taken, take?_eq_some_iff]
    constructor
    · intro read
      rcases read with ⟨length, rest, offset⟩
      exact ⟨value, ⟨length, rfl⟩, rest, offset⟩
    · intro written
      rcases written with ⟨_, ⟨length, rfl⟩, rest, offset⟩
      exact ⟨length, rest, offset⟩
  blames := by
    intro cursor fault failed
    unfold Reader.block at failed
    split at failed
    case h_1 => cases failed
    case h_2 => exact ⟨_, (Except.error.inj failed).symm⟩

theorem recognises_number (width : Nat) :
    Recognises (Reader.number width) fun bytes value =>
      bytes.length = width ∧ bigEndian bytes = value where
  accepts := by
    intro cursor value next
    unfold Reader.number
    constructor
    · intro success
      split at success
      case h_1 chunk _ taken =>
        obtain ⟨rfl, rfl⟩ := Prod.mk.inj (Except.ok.inj success)
        obtain ⟨length, rest, offset⟩ := (take?_eq_some_iff _ _ _ _).mp taken
        exact ⟨chunk, ⟨length, rfl⟩, rest, offset⟩
      case h_2 => cases success
    · intro written
      rcases written with ⟨chunk, ⟨length, rfl⟩, rest, offset⟩
      have taken := (take?_eq_some_iff width cursor next chunk).mpr ⟨length, rest, offset⟩
      simp only [taken]
  blames := by
    intro cursor fault failed
    unfold Reader.number at failed
    split at failed
    case h_1 => cases failed
    case h_2 => exact ⟨_, (Except.error.inj failed).symm⟩

theorem recognises_skip (size : Nat) :
    Recognises (Reader.skip size) fun bytes _ => bytes.length = size := by
  refine ((recognises_block size).bind fun chunk => .pure ()).congr fun bytes value => ?_
  constructor
  · intro read
    rcases read with ⟨_, front, back, ⟨length, _⟩, ⟨rfl, _⟩, rfl⟩
    rwa [List.append_nil]
  · intro length
    exact ⟨bytes, bytes, [], ⟨length, rfl⟩, ⟨rfl, rfl⟩, (List.append_nil bytes).symm⟩

theorem recognises_u1 :
    Recognises (Reader.number 1) fun bytes value => bytes = u1 value ∧ value < 0x100 :=
  (recognises_number 1).congr eq_u1_iff

theorem recognises_u2 :
    Recognises (Reader.number 2) fun bytes value => bytes = u2 value ∧ value < 0x10000 :=
  (recognises_number 2).congr eq_u2_iff

theorem recognises_word :
    Recognises (Reader.number 2) fun bytes value =>
      ∃ word : UInt16, bytes = u2 word.toNat ∧ value = word.toNat := by
  refine recognises_u2.congr fun bytes value => ?_
  constructor
  · intro read
    rcases read with ⟨rfl, bound⟩
    have same := UInt16.toNat_ofNat_of_lt' bound
    exact ⟨.ofNat value, by rw [same], same.symm⟩
  · intro written
    rcases written with ⟨word, rfl, rfl⟩
    exact ⟨rfl, word.toNat_lt⟩

theorem recognises_u4 :
    Recognises (Reader.number 4) fun bytes value => bytes = u4 value ∧ value < 0x100000000 :=
  (recognises_number 4).congr eq_u4_iff

/-- What another computation gives is taken from no byte. -/
theorem recognises_lift {result : Except Error α}
    (blames : ∀ fault, result = .error fault → ∃ cause, fault = .format cause) :
    Recognises (liftM result : Reader α) fun bytes value => bytes = [] ∧ result = .ok value := by
  cases result with
  | ok given =>
      refine (Recognises.pure given).congr fun bytes value => ?_
      rw [Except.ok.injEq, eq_comm (a := given)]
  | error fault =>
      obtain ⟨cause, rfl⟩ := blames fault rfl
      refine (Recognises.fail cause).congr fun bytes value => ?_
      simp

section Run

variable {reader : Reader α} {Word : List UInt8 → α → Prop}

/-- A reader over a byte string of its own leaves what follows the word. -/
theorem run_eq_ok_iff (recognises : Recognises reader Word) (bytes : List UInt8) (value : α) :
    reader.run bytes = .ok value ↔ ∃ word rest, Word word value ∧ bytes = word ++ rest := by
  have unfolded : reader.run bytes = .ok value ↔ ∃ next, reader ⟨bytes, 0⟩ = .ok (value, next) := by
    unfold Reader.run
    cases reader ⟨bytes, 0⟩ with
    | ok pair => simp [Except.map, Prod.ext_iff]
    | error cause => simp [Except.map]
  rw [unfolded]
  constructor
  · intro success
    rcases success with ⟨next, success⟩
    obtain ⟨word, isWord, split, _⟩ := (recognises.accepts _ _ _).mp success
    exact ⟨word, next.rest, isWord, split⟩
  · intro accepted
    rcases accepted with ⟨word, rest, isWord, rfl⟩
    exact ⟨⟨rest, 0 + word.length⟩, (recognises.accepts _ _ _).mpr ⟨word, isWord, rfl, rfl⟩⟩

theorem format_of_run_eq_error (recognises : Recognises reader Word) {bytes : List UInt8}
    {fault : Error} (failed : reader.run bytes = .error fault) :
    ∃ cause, fault = .format cause := by
  unfold Reader.run at failed
  cases result : reader ⟨bytes, 0⟩ with
  | ok pair =>
      rw [result] at failed
      cases failed
  | error cause =>
      rw [result] at failed
      have same : cause = fault := Except.error.inj failed
      exact recognises.blames _ fault (same ▸ result)

end Run

/-! ## Repetitions -/

section Repetition

variable {γ : Type} {reader : Reader α} {written : γ → List UInt8} {Denotes : γ → α → Prop}

theorem recognises_timesOnto
    (item : Recognises reader fun bytes value => ∃ thing, bytes = written thing ∧ Denotes thing value)
    (count : Nat) (items : Array α) :
    Recognises (Reader.timesOnto reader count items) fun bytes result => ∃ things values,
      bytes = things.flatMap written ∧ List.Forall₂ Denotes things values ∧
        things.length = count ∧ result.toList = items.toList ++ values := by
  induction count generalizing items with
  | zero =>
      refine (Recognises.pure items).congr fun bytes result => ?_
      constructor
      · intro read
        rcases read with ⟨rfl, rfl⟩
        exact ⟨[], [], rfl, .nil, rfl, by simp⟩
      · intro written
        rcases written with ⟨things, values, rfl, denoted, length, same⟩
        obtain rfl := List.length_eq_zero_iff.mp length
        cases denoted
        exact ⟨rfl, Array.toList_inj.mp (by simpa using same)⟩
  | succ count inductionHypothesis =>
      refine (item.bind fun value => inductionHypothesis (items.push value)).congr
        fun bytes result => ?_
      constructor
      · intro read
        rcases read with ⟨value, _, _, ⟨thing, rfl, isThing⟩, ⟨things, values, rfl, areThings, rfl, same⟩, rfl⟩
        exact ⟨thing :: things, value :: values, rfl, .cons isThing areThings, rfl, by simpa using same⟩
      · intro written
        rcases written with ⟨things, values, rfl, denoted, length, same⟩
        cases denoted with
        | nil => cases length
        | @cons thing value things values isThing areThings =>
            refine ⟨value, _, _, ⟨thing, rfl, isThing⟩,
              ⟨things, values, rfl, areThings, by simpa using length, by simpa using same⟩, rfl⟩

/-- Items that are only skipped denote whatever there is. -/
theorem forall₂_skipped (things : List γ) :
    List.Forall₂ (fun _ (_ : Unit) => True) things (things.map fun _ => ()) :=
  List.forall₂_map_right_iff.mpr (List.forall₂_same.mpr fun _ _ => trivial)

/-- Items that are each the bytes of a thing, and denote it, one after the other. -/
theorem recognises_times
    (item : Recognises reader fun bytes value => ∃ thing, bytes = written thing ∧ Denotes thing value)
    (count : Nat) :
    Recognises (Reader.times count reader) fun bytes values => ∃ things,
      bytes = things.flatMap written ∧ List.Forall₂ Denotes things values ∧
        things.length = count := by
  refine ((recognises_timesOnto item count #[]).bind fun read => .pure read.toList).congr
    fun bytes values => ?_
  constructor
  · intro read
    rcases read with ⟨read, _, _, ⟨things, values, rfl, denoted, length, same⟩, ⟨rfl, rfl⟩, rfl⟩
    exact ⟨things, List.append_nil _, by simpa [same] using denoted, length⟩
  · intro written
    rcases written with ⟨things, rfl, denoted, length⟩
    exact ⟨values.toArray, _, [], ⟨things, values, rfl, denoted, length, by simp⟩, ⟨rfl, by simp⟩,
      (List.append_nil _).symm⟩

/-- The same behind a number that says how many items there are. -/
theorem recognises_counted
    (item : Recognises reader fun bytes value => ∃ thing, bytes = written thing ∧ Denotes thing value) :
    Recognises (Reader.counted reader) fun bytes values => ∃ things,
      bytes = u2 things.length ++ things.flatMap written ∧ List.Forall₂ Denotes things values ∧
        things.length < 0x10000 := by
  refine (recognises_u2.bind fun count => recognises_times item count).congr fun bytes values => ?_
  constructor
  · intro read
    rcases read with ⟨_, _, _, ⟨rfl, bound⟩, ⟨things, rfl, denoted, rfl⟩, rfl⟩
    exact ⟨things, rfl, denoted, bound⟩
  · intro written
    rcases written with ⟨things, rfl, denoted, bound⟩
    exact ⟨_, _, _, ⟨rfl, bound⟩, ⟨things, rfl, denoted, rfl⟩, rfl⟩

end Repetition

end SurfaceDiff.ClassFile
