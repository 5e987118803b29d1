import SurfaceDiff.ClassFile.Reader
import SurfaceDiff.Proofs.ClassFile.Recognition

/-!
Contract: readers that further bytes at the end do not disturb.

Owns: the faults of truncation, `Steady` with its rules for sequences and repetitions, and its proof
for every reader of a class file.
Does not own: how many bytes a reader takes.

A steady reader that succeeds takes the same bytes when more of them follow, and one that fails for a
reason other than the end of the bytes fails for the same reason. Only a fault of truncation can go
away.
-/

namespace SurfaceDiff.ClassFile

open Text

/-! ## Truncation -/

/-- The bytes end within a number or a block. -/
inductive Error.IsTruncation : Error → Prop where
  | number (offset : Nat) : IsTruncation (.format (.truncatedNumber offset))
  | block (size offset : Nat) : IsTruncation (.format (.truncatedBlock size offset))

theorem toString_literal (text : String) : toString text = text :=
  rfl

/-- The faults of truncation are those whose message says so. -/
theorem isTruncation_format_iff (cause : FormatError) :
    (Error.format cause).IsTruncation ↔
      "Truncated class file".toList <+: cause.message.toList := by
  -- Opened by `delta`: the equations of `message` are slow to make, because of its literals.
  delta FormatError.message
  constructor
  · intro truncated
    cases truncated with
    | number offset => simp [toString_literal]
    | block size offset => simp [toString_literal]
  · intro worded
    cases cause with
    | truncatedNumber offset => exact .number offset
    | truncatedBlock size offset => exact .block size offset
    | badMagic => exact absurd worded (by decide)
    | malformedText | unknownTag | notText | notClass =>
        simp [toString_literal] at worded

/-! ## Steady readers -/

/-- The same place in a byte string that goes on. -/
def Cursor.extend (cursor : Cursor) (more : List UInt8) : Cursor :=
  ⟨cursor.rest ++ more, cursor.offset⟩

variable {α β : Type}

structure Steady (reader : Reader α) : Prop where
  succeeds : ∀ cursor value next more, reader cursor = .ok (value, next) →
    reader (cursor.extend more) = .ok (value, next.extend more)
  fails : ∀ cursor fault more, reader cursor = .error fault → ¬fault.IsTruncation →
    reader (cursor.extend more) = .error fault

namespace Steady

theorem pure (value : α) : Steady (Pure.pure value : Reader α) where
  succeeds := by
    intro cursor result next more success
    obtain ⟨rfl, rfl⟩ := Prod.mk.inj (Except.ok.inj success)
    rfl
  fails := nofun

theorem throw (fault : Error) : Steady (MonadExcept.throw fault : Reader α) where
  succeeds := nofun
  fails := fun _ _ _ failed _ => failed

theorem fail (cause : FormatError) : Steady (Reader.fail cause : Reader α) :=
  throw (.format cause)

theorem bind {first : Reader α} {second : α → Reader β} (steady : Steady first)
    (follows : ∀ value, Steady (second value)) : Steady (first >>= second) where
  succeeds := by
    intro cursor result final more success
    obtain ⟨value, middle, isFirst, isSecond⟩ := (bind_eq_ok_iff _ _ _ _ _).mp success
    refine (bind_eq_ok_iff _ _ _ _ _).mpr ⟨value, middle.extend more, ?_, ?_⟩
    · exact steady.succeeds _ _ _ more isFirst
    · exact (follows value).succeeds _ _ _ more isSecond
  fails := by
    intro cursor fault more failed lasting
    rw [bind_apply] at failed ⊢
    cases front : first cursor with
    | error cause =>
        rw [front] at failed
        obtain rfl : cause = fault := Except.error.inj failed
        rw [steady.fails _ _ more front lasting]
        rfl
    | ok pair =>
        rw [front] at failed
        rw [steady.succeeds _ _ _ more front]
        exact (follows pair.1).fails _ _ more failed lasting

/-- What comes behind the end does not change where a reader stands. -/
theorem offset : Steady Reader.offset where
  succeeds := by
    intro cursor value next more success
    obtain ⟨rfl, rfl⟩ := Prod.mk.inj (Except.ok.inj success)
    rfl
  fails := nofun

theorem ite {condition : Prop} [Decidable condition] {positive negative : Reader α}
    (holds : Steady positive) (otherwise : Steady negative) :
    Steady (if condition then positive else negative) := by
  split
  · exact holds
  · exact otherwise

/-- Another computation sees none of the bytes. -/
theorem lift (result : Except Error α) : Steady (liftM result : Reader α) := by
  cases result with
  | ok value => exact pure value
  | error fault => exact throw fault

/-! ### Primitives -/

theorem take?_extend {count : Nat} {cursor next : Cursor} {chunk : List UInt8}
    (taken : cursor.take? count = some (chunk, next)) (more : List UInt8) :
    (cursor.extend more).take? count = some (chunk, next.extend more) := by
  obtain ⟨length, rest, offset⟩ := (take?_eq_some_iff _ _ _ _).mp taken
  refine (take?_eq_some_iff _ _ _ _).mpr ⟨length, ?_, offset⟩
  unfold Cursor.extend
  rw [rest, List.append_assoc]

theorem number (width : Nat) : Steady (Reader.number width) where
  succeeds := by
    intro cursor value next more success
    unfold Reader.number at success ⊢
    split at success
    case h_1 chunk behind taken =>
      obtain ⟨rfl, rfl⟩ := Prod.mk.inj (Except.ok.inj success)
      rw [take?_extend taken]
    case h_2 => cases success
  fails := by
    intro cursor fault more failed lasting
    unfold Reader.number at failed
    split at failed
    case h_1 => cases failed
    case h_2 =>
      obtain rfl := Except.error.inj failed
      exact absurd (.number _) lasting

theorem block (size : Nat) : Steady (Reader.block size) where
  succeeds := by
    intro cursor value next more success
    unfold Reader.block at success ⊢
    split at success
    case h_1 chunk behind taken =>
      obtain ⟨rfl, rfl⟩ := Prod.mk.inj (Except.ok.inj success)
      rw [take?_extend taken]
    case h_2 => cases success
  fails := by
    intro cursor fault more failed lasting
    unfold Reader.block at failed
    split at failed
    case h_1 => cases failed
    case h_2 =>
      obtain rfl := Except.error.inj failed
      exact absurd (.block _ _) lasting

theorem skip (size : Nat) : Steady (Reader.skip size) :=
  bind (block size) fun _ => pure ()

/-! ### Repetitions -/

theorem timesOnto {reader : Reader α} (steady : Steady reader) (count : Nat) (items : Array α) :
    Steady (Reader.timesOnto reader count items) := by
  induction count generalizing items with
  | zero => exact pure items
  | succ count inductionHypothesis =>
      exact bind steady fun value => inductionHypothesis (items.push value)

theorem times {reader : Reader α} (steady : Steady reader) (count : Nat) :
    Steady (Reader.times count reader) :=
  bind (steady.timesOnto count #[]) fun items => pure items.toList

theorem counted {reader : Reader α} (steady : Steady reader) : Steady (Reader.counted reader) :=
  bind (number 2) fun count => steady.times count

/-! ### The constant pool -/

theorem text (pool : ConstantPool) (index : Nat) : Steady (pool.text index) := by
  unfold ConstantPool.text
  split
  · exact pure _
  · exact fail _

theorem className (pool : ConstantPool) (index : Nat) : Steady (pool.className index) := by
  unfold ConstantPool.className
  split
  · exact text pool _
  · exact fail _

theorem readText (pool : ConstantPool) : Steady pool.readText :=
  bind (number 2) (text pool)

theorem readClassName (pool : ConstantPool) : Steady pool.readClassName :=
  bind (number 2) (className pool)

theorem readTextEntry : Steady ConstantPool.readTextEntry := by
  refine bind (number 2) fun size => bind (block size) fun bytes => ?_
  split
  · exact pure _
  · exact fail _

theorem readEntry : Steady ConstantPool.readEntry := by
  refine bind offset fun start => bind (number 1) fun tag => ite ?_ (ite ?_ ?_)
  · exact bind readTextEntry fun slot => pure (slot, false)
  · exact bind (number 2) fun nameIndex => pure (Slot.classRef nameIndex, false)
  · split
    · exact bind (skip _) fun _ => pure _
    · exact fail _

theorem readSlots (count : Nat) (second : Bool) (slots : Array Slot) :
    Steady (ConstantPool.readSlots count second slots) := by
  induction count generalizing second slots with
  | zero => exact pure slots
  | succ count inductionHypothesis =>
      cases second with
      | true => exact inductionHypothesis false (slots.push .other)
      | false =>
          exact bind readEntry fun entry => inductionHypothesis entry.2 (slots.push entry.1)

theorem readPool : Steady ConstantPool.read :=
  bind (number 2) fun count => bind (readSlots (count - 1) false #[.other]) fun slots =>
    pure (⟨slots⟩ : ConstantPool)

/-! ### The sections behind it -/

theorem skipAttribute : Steady ClassFile.skipAttribute :=
  bind (skip 2) fun _ => bind (number 4) skip

theorem skipAttributes : Steady ClassFile.skipAttributes :=
  bind skipAttribute.counted fun _ => pure ()

theorem skipField : Steady ClassFile.skipField :=
  bind (skip 6) fun _ => skipAttributes

theorem readAttribute (pool : ConstantPool) : Steady (ClassFile.readAttribute pool) :=
  bind (readText pool) fun name => bind (number 4) fun size => bind (block size) fun payload =>
    pure (⟨name, payload⟩ : Attribute)

/-- A payload is read as a byte string of its own, so that nothing is added to its end. -/
theorem readCode (pool : ConstantPool) (count : Nat) (code : Option (List UInt8)) :
    Steady (ClassFile.readCode pool count code) := by
  induction count generalizing code with
  | zero => exact pure code
  | succ count inductionHypothesis =>
      refine bind (readAttribute pool) fun item => ite ?_ (inductionHypothesis code)
      exact bind (lift (readInstructions.run item.payload)) fun instructions =>
        inductionHypothesis (some instructions)

theorem readMethod (pool : ConstantPool) : Steady (ClassFile.readMethod pool) :=
  bind (number 2) fun _ => bind (readText pool) fun _ => bind (readText pool) fun _ =>
    bind (number 2) fun count => bind (readCode pool count none) fun _ => pure _

theorem readSuperName (pool : ConstantPool) : Steady (ClassFile.readSuperName pool) :=
  bind (number 2) fun index => ite (pure none) (bind (className pool index) fun _ => pure _)

theorem skipInterfaces : Steady ClassFile.skipInterfaces :=
  bind (number 2) fun count => skip (2 * count)

theorem readMethods (pool : ConstantPool) : Steady (ClassFile.readMethods pool) :=
  bind skipInterfaces fun _ => bind skipField.counted fun _ => (readMethod pool).counted

theorem readContents : Steady ClassFile.readContents :=
  bind (skip 8) fun _ => bind readPool fun pool => bind (number 2) fun _ =>
    bind (readClassName pool) fun _ => bind (readSuperName pool) fun _ =>
    bind (readMethods pool) fun _ => pure _

/-- Whether the class has a proper name is settled by what was read. -/
theorem readClass : Steady ClassFile.readClass := by
  refine bind readContents fun contents => ?_
  split
  · exact pure _
  · exact throw _

/-! ### Runs -/

variable {reader : Reader α} {bytes : List UInt8}

theorem run_append_of_ok (steady : Steady reader) {value : α}
    (success : reader.run bytes = .ok value) (more : List UInt8) :
    reader.run (bytes ++ more) = .ok value := by
  unfold Reader.run at success ⊢
  cases result : reader ⟨bytes, 0⟩ with
  | error fault =>
      rw [result] at success
      cases success
  | ok pair =>
      rw [result] at success
      have extended : reader ⟨bytes ++ more, 0⟩ = .ok (pair.1, pair.2.extend more) :=
        steady.succeeds _ _ _ more result
      rw [extended]
      exact success

theorem run_append_of_error (steady : Steady reader) {fault : Error}
    (failed : reader.run bytes = .error fault) (lasting : ¬fault.IsTruncation)
    (more : List UInt8) : reader.run (bytes ++ more) = .error fault := by
  unfold Reader.run at failed ⊢
  cases result : reader ⟨bytes, 0⟩ with
  | error cause =>
      rw [result] at failed
      obtain rfl : cause = fault := Except.error.inj failed
      have extended : reader ⟨bytes ++ more, 0⟩ = .error cause :=
        steady.fails _ _ more result lasting
      rw [extended]
      rfl
  | ok pair =>
      rw [result] at failed
      cases failed

end Steady

end SurfaceDiff.ClassFile
