import SurfaceDiff.Proofs.ClassFile.Acceptance
import SurfaceDiff.Proofs.ClassFile.Steadiness

/-!
Contract: where the class in a byte string ends.

Owns: `EndsAt`, that there is one such place for every class that is read, and that bytes added at the
end change no class and no fault but one of truncation.
-/

namespace SurfaceDiff.ClassFile

/-! ## Further bytes -/

theorem isPrefixOf_append {data : List UInt8} (long : magic.length ≤ data.length)
    (more : List UInt8) : magic.isPrefixOf (data ++ more) = magic.isPrefixOf data := by
  rw [Bool.eq_iff_iff, List.isPrefixOf_iff_prefix, List.isPrefixOf_iff_prefix]
  exact ⟨fun starts => List.prefix_of_prefix_length_le starts (List.prefix_append _ _) long,
    fun starts => starts.trans (List.prefix_append _ _)⟩

theorem parse_of_short {data : List UInt8} (short : data.length < magic.length) :
    parse data = .error (.format .badMagic) := by
  refine if_neg fun starts => ?_
  have long := (List.isPrefixOf_iff_prefix.mp starts).length_le
  omega

theorem length_of_parse {data : List UInt8} {decl : ClassDecl} (parsed : parse data = .ok decl) :
    magic.length ≤ data.length := by
  by_contra short
  rw [parse_of_short (by omega)] at parsed
  cases parsed

theorem parse_append_of_ok {data : List UInt8} {decl : ClassDecl} (parsed : parse data = .ok decl)
    (more : List UInt8) : parse (data ++ more) = .ok decl := by
  have long := length_of_parse parsed
  unfold parse at parsed ⊢
  rw [isPrefixOf_append long]
  split at parsed
  case isTrue starts =>
    rw [if_pos starts]
    exact Steady.readClass.run_append_of_ok parsed more
  case isFalse => cases parsed

theorem parse_append_of_error {data : List UInt8} (long : magic.length ≤ data.length)
    {fault : Error} (failed : parse data = .error fault) (lasting : ¬fault.IsTruncation)
    (more : List UInt8) : parse (data ++ more) = .error fault := by
  unfold parse at failed ⊢
  rw [isPrefixOf_append long]
  split at failed
  case isTrue starts =>
    rw [if_pos starts]
    exact Steady.readClass.run_append_of_error failed lasting more
  case isFalse different =>
    rw [if_neg different]
    exact failed

/-! ## The place where a class ends -/

/-- Two words at the start of one byte string have the same length: the reader stops in one place. -/
theorem Recognises.length_unique {α : Type} {reader : Reader α} {Word : List UInt8 → α → Prop}
    (recognises : Recognises reader Word) {first second rest other : List UInt8} {value result : α}
    (isFirst : Word first value) (isSecond : Word second result)
    (same : first ++ rest = second ++ other) : first.length = second.length := by
  have readFirst : reader ⟨first ++ rest, 0⟩ = .ok (value, ⟨rest, 0 + first.length⟩) :=
    (recognises.accepts _ _ _).mpr ⟨first, isFirst, rfl, rfl⟩
  have readSecond : reader ⟨first ++ rest, 0⟩ = .ok (result, ⟨other, 0 + second.length⟩) :=
    (recognises.accepts _ _ _).mpr ⟨second, isSecond, same, rfl⟩
  rw [readFirst] at readSecond
  have stops := congrArg (fun pair => pair.2.offset) (Except.ok.inj readSecond)
  simpa using stops

/-- The class takes the first `size` bytes. Cut off before, it is refused, for truncation as soon as
the magic number is there; what stands behind does not matter. -/
structure EndsAt (data : List UInt8) (decl : ClassDecl) (size : Nat) : Prop where
  within : size ≤ data.length
  cut : ∀ count < size, ∃ cause, parse (data.take count) = .error (.format cause) ∧
    (magic.length ≤ count → (Error.format cause).IsTruncation)
  whole : ∀ count, size ≤ count → parse (data.take count) = .ok decl

/-- A shorter prefix would be cut off and whole. -/
theorem EndsAt.unique {data : List UInt8} {decl : ClassDecl} {first second : Nat}
    (isFirst : EndsAt data decl first) (isSecond : EndsAt data decl second) : first = second := by
  rcases Nat.lt_trichotomy first second with before | same | behind
  · obtain ⟨_, failed, _⟩ := isSecond.cut first before
    rw [isFirst.whole first le_rfl] at failed
    cases failed
  · exact same
  · obtain ⟨_, failed, _⟩ := isFirst.cut second behind
    rw [isSecond.whole second le_rfl] at failed
    cases failed

/-- Of the bytes of a class file, only all of them are read. -/
theorem not_parse_cut {file : Layout (List UInt8)} {trailing : List UInt8} {decl : ClassDecl}
    {count : Nat} (admissible : file.Admissible)
    (denoted : (file.map Layout.decoded).Denotes (contentsOf decl))
    (before : count < file.bytes.length) (other : ClassDecl) :
    parse ((file.bytes ++ trailing).take count) ≠ .ok other := by
  intro parsed
  obtain ⟨shorter, rest, split, shorterAdmissible, shorterDenoted⟩ :=
    (parse_eq_ok_iff _ other).mp parsed
  have same : file.bytes ++ trailing =
      shorter.bytes ++ (rest ++ (file.bytes ++ trailing).drop count) := by
    rw [← List.append_assoc, ← split, List.take_append_drop]
  have length := Layout.recognises_readContents.length_unique
    ⟨magic, file, rfl, rfl, admissible, denoted⟩
    ⟨magic, shorter, rfl, rfl, shorterAdmissible, shorterDenoted⟩ same
  have fits := congrArg List.length split
  rw [List.length_take, List.length_append, List.length_append] at fits
  have whole : (magic ++ file.body).length = file.bytes.length := rfl
  have part : (magic ++ shorter.body).length = shorter.bytes.length := rfl
  omega

/-- Where bytes are cut off a class that can be read, behind the magic number, every fault is one of
truncation: any other would remain when the bytes are put back. -/
theorem isTruncation_of_cut {data : List UInt8} {decl : ClassDecl} (parsed : parse data = .ok decl)
    {count : Nat} (long : magic.length ≤ (data.take count).length) {fault : Error}
    (cut : parse (data.take count) = .error fault) : fault.IsTruncation := by
  by_contra lasting
  have failed := parse_append_of_error long cut lasting (data.drop count)
  rw [List.take_append_drop, parsed] at failed
  cases failed

theorem exists_endsAt {data : List UInt8} {decl : ClassDecl} (parsed : parse data = .ok decl) :
    ∃ size, EndsAt data decl size := by
  obtain ⟨file, trailing, rfl, admissible, denoted⟩ := (parse_eq_ok_iff _ decl).mp parsed
  refine ⟨file.bytes.length, by simp, ?_, ?_⟩
  · intro count before
    have length : ((file.bytes ++ trailing).take count).length = count := by
      rw [List.length_take, List.length_append]
      omega
    cases result : parse ((file.bytes ++ trailing).take count) with
    | ok other => exact absurd result (not_parse_cut admissible denoted before other)
    | error fault =>
        by_cases short : count < magic.length
        · rw [parse_of_short (by omega)] at result
          obtain rfl := Except.error.inj result
          exact ⟨.badMagic, rfl, fun long => absurd short (by omega)⟩
        · cases isTruncation_of_cut parsed (by omega) result with
          | number offset => exact ⟨_, rfl, fun _ => .number offset⟩
          | block size offset => exact ⟨_, rfl, fun _ => .block size offset⟩
  · intro count behind
    refine (parse_eq_ok_iff _ decl).mpr
      ⟨file, trailing.take (count - file.bytes.length), ?_, admissible, denoted⟩
    rw [List.take_append, List.take_of_length_le behind]

/-- A class that is read ends in one place, and no byte behind it matters. A fault other than one of
truncation stays the same, whatever is added to the bytes. -/
theorem parse_extends (data : List UInt8) :
    (∀ decl, parse data = .ok decl →
      (∃! size, EndsAt data decl size) ∧ ∀ more, parse (data ++ more) = .ok decl) ∧
    (∀ fault, magic.length ≤ data.length → parse data = .error fault → ¬fault.IsTruncation →
      ∀ more, parse (data ++ more) = .error fault) := by
  refine ⟨fun decl parsed => ⟨?_, parse_append_of_ok parsed⟩,
    fun fault long failed lasting => parse_append_of_error long failed lasting⟩
  obtain ⟨size, endsAt⟩ := exists_endsAt parsed
  exact ⟨size, endsAt, fun other isOther => isOther.unique endsAt⟩

/-- A class `A` without superclass and members. -/
def smallest : List UInt8 :=
  magic ++ [0, 0, 0, 52, 0, 3, 1, 0, 1, 0x41, 7, 0, 1, 0, 0x21, 0, 2, 0, 0, 0, 0, 0, 0, 0, 0]

/-- A pool whose first constant has a tag that does not exist. -/
def unknownConstant : List UInt8 :=
  magic ++ [0, 0, 0, 52, 0, 2, 99]

theorem parse_extends_smallest :
    ∃ decl, parse smallest = .ok decl ∧ (∃! size, EndsAt smallest decl size) ∧
      (∀ more, parse (smallest ++ more) = .ok decl) ∧
      ∃ fault, parse unknownConstant = .error fault ∧ ¬fault.IsTruncation ∧
        ∀ more, parse (unknownConstant ++ more) = .error fault := by
  have parsed : parse smallest = .ok ⟨"A", 0x21, none, [], by decide⟩ := by decide +kernel
  have failed : parse unknownConstant = .error (.format (.unknownTag 99 10)) := by decide +kernel
  have lasting : ¬(Error.format (.unknownTag 99 10)).IsTruncation := nofun
  obtain ⟨endsAt, extended⟩ := (parse_extends smallest).1 _ parsed
  exact ⟨_, parsed, endsAt, extended, _, failed, lasting,
    (parse_extends unknownConstant).2 _ (by decide) failed lasting⟩

end SurfaceDiff.ClassFile
