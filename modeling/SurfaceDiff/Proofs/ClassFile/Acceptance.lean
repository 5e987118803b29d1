import SurfaceDiff.Proofs.ClassFile.Contents
import SurfaceDiff.Proofs.Text.Surrogates

/-!
Contract: which byte strings are taken for a class, and what happens to all others.

Owns: `Declares`, the names that are refused, and the outcome of `parse` on every byte string.
-/

namespace SurfaceDiff.ClassFile

open Text

/-! ## Declared contents -/

/-- The bytes start with a class file of these contents; anything may follow. -/
def Declares (data : List UInt8) (contents : Contents) : Prop :=
  ∃ (file : Layout (List UInt8)) (trailing : List UInt8),
    data = file.bytes ++ trailing ∧ file.Admissible ∧ (file.map Layout.decoded).Denotes contents

theorem declares_iff (data : List UInt8) (contents : Contents) :
    Declares data contents ↔
      magic.isPrefixOf data = true ∧ readContents.run data = .ok contents := by
  rw [run_eq_ok_iff Layout.recognises_readContents, List.isPrefixOf_iff_prefix]
  constructor
  · intro declares
    obtain ⟨file, trailing, rfl, admissible, denoted⟩ := declares
    refine ⟨⟨file.body ++ trailing, (List.append_assoc _ _ _).symm⟩, file.bytes, trailing, ?_, rfl⟩
    exact ⟨magic, file, rfl, rfl, admissible, denoted⟩
  · intro read
    obtain ⟨⟨behind, isMagic⟩, _, trailing, ⟨start, file, length, rfl, admissible, denoted⟩, rfl⟩ := read
    rw [List.append_assoc] at isMagic
    obtain ⟨rfl, _⟩ := List.append_inj isMagic length.symm
    exact ⟨file, trailing, rfl, admissible, denoted⟩

/-- No byte string declares two classes, whatever layouts it is split into. -/
theorem Declares.unique {data : List UInt8} {first second : Contents}
    (isFirst : Declares data first) (isSecond : Declares data second) : first = second := by
  have read := ((declares_iff data first).mp isFirst).2
  rw [((declares_iff data second).mp isSecond).2] at read
  exact (Except.ok.inj read).symm

/-! ## Names of classes -/

def contentsOf (decl : ClassDecl) : Contents where
  name := .ofString decl.name
  accessFlags := decl.accessFlags
  superName := decl.superName
  methods := decl.methods

/-- A class must have a name, and one that is a string. -/
inductive Refused (name : CodePoints) : Rejection → Prop where
  | empty (isEmpty : name = []) : Refused name ⟨.classDecl, [⟨"name", .emptyText⟩]⟩
  | surrogate (isSurrogate : ¬CodePoints.SurrogateFree name) :
    Refused name ⟨.classDecl, [⟨"name", .loneSurrogate⟩]⟩

theorem toClassDecl_eq_ok_iff (contents : Contents) (decl : ClassDecl) :
    contents.toClassDecl = .ok decl ↔ contents = contentsOf decl := by
  constructor
  · intro made
    unfold Contents.toClassDecl at made
    split at made
    case h_1 text isText =>
      rw [CodePoints.toString?_eq_some_iff] at isText
      unfold ClassDecl.ofFields at made
      split at made
      case isTrue nonempty =>
        obtain rfl := Except.ok.inj made
        unfold contentsOf
        rw [← isText]
      case isFalse => cases made
    case h_2 => cases made
  · intro same
    have isText : (contentsOf decl).name.toString? = some decl.name :=
      (CodePoints.toString?_eq_some_iff _ _).mpr rfl
    unfold Contents.toClassDecl
    rw [same, isText]
    exact dif_pos decl.name_ne_empty

theorem toClassDecl_eq_error_iff (contents : Contents) (cause : Rejection) :
    contents.toClassDecl = .error cause ↔ Refused contents.name cause := by
  constructor
  · intro refused
    unfold Contents.toClassDecl at refused
    split at refused
    case h_1 text isText =>
      rw [CodePoints.toString?_eq_some_iff] at isText
      unfold ClassDecl.ofFields at refused
      split at refused
      case isTrue => cases refused
      case isFalse isEmpty =>
        obtain rfl := Except.error.inj refused
        rw [Decidable.not_not.mp isEmpty] at isText
        exact .empty isText
    case h_2 noText =>
      obtain rfl := Except.error.inj refused
      exact .surrogate ((CodePoints.toString?_eq_none_iff _).mp noText)
  · intro refused
    unfold Contents.toClassDecl
    cases refused with
    | empty isEmpty =>
        have isText : contents.name.toString? = some "" :=
          (CodePoints.toString?_eq_some_iff _ _).mpr isEmpty
        rw [isText]
        exact dif_neg fun nonempty => nonempty rfl
    | surrogate isSurrogate =>
        rw [(CodePoints.toString?_eq_none_iff _).mpr isSurrogate]

/-! ## Outcomes -/

theorem run_readClass (data : List UInt8) :
    readClass.run data =
      (readContents.run data).bind fun contents => contents.toClassDecl.mapError .rejected := by
  unfold Reader.run readClass
  rw [bind_apply]
  cases readContents ⟨data, 0⟩ with
  | error fault => rfl
  | ok pair =>
      have unfolded : (Except.map Prod.fst (.ok pair : Except Error (Contents × Cursor))).bind
          (fun contents => contents.toClassDecl.mapError .rejected) =
            pair.1.toClassDecl.mapError .rejected := rfl
      rw [unfolded]
      cases made : pair.1.toClassDecl with
      | ok decl => simp [Except.bind, made]; rfl
      | error cause => simp [Except.bind, made]; rfl

theorem parse_of_declares {data : List UInt8} {contents : Contents}
    (declares : Declares data contents) :
    parse data = contents.toClassDecl.mapError .rejected := by
  obtain ⟨isMagic, read⟩ := (declares_iff data contents).mp declares
  unfold parse
  rw [if_pos isMagic, run_readClass, read]
  rfl

theorem parse_of_not_declares {data : List UInt8} (none : ¬∃ contents, Declares data contents) :
    ∃ cause, parse data = .error (.format cause) := by
  unfold parse
  split
  case isTrue isMagic =>
    rw [run_readClass]
    cases read : readContents.run data with
    | ok contents => exact absurd ⟨contents, (declares_iff data contents).mpr ⟨isMagic, read⟩⟩ none
    | error fault =>
        obtain ⟨cause, rfl⟩ := format_of_run_eq_error Layout.recognises_readContents read
        exact ⟨cause, rfl⟩
  case isFalse => exact ⟨.badMagic, rfl⟩

theorem parse_eq_ok_iff (data : List UInt8) (decl : ClassDecl) :
    parse data = .ok decl ↔ Declares data (contentsOf decl) := by
  constructor
  · intro parsed
    by_cases declared : ∃ contents, Declares data contents
    · obtain ⟨contents, declares⟩ := declared
      rw [parse_of_declares declares] at parsed
      cases made : contents.toClassDecl with
      | ok other =>
          rw [made] at parsed
          cases parsed
          exact (toClassDecl_eq_ok_iff contents decl).mp made ▸ declares
      | error cause =>
          rw [made] at parsed
          cases parsed
    · obtain ⟨cause, failed⟩ := parse_of_not_declares declared
      rw [failed] at parsed
      cases parsed
  · intro declares
    rw [parse_of_declares declares, (toClassDecl_eq_ok_iff _ decl).mpr rfl]
    rfl

theorem parse_eq_rejected_iff (data : List UInt8) (cause : Rejection) :
    parse data = .error (.rejected cause) ↔
      ∃ contents, Declares data contents ∧ Refused contents.name cause := by
  constructor
  · intro parsed
    by_cases declared : ∃ contents, Declares data contents
    · obtain ⟨contents, declares⟩ := declared
      rw [parse_of_declares declares] at parsed
      cases made : contents.toClassDecl with
      | ok other =>
          rw [made] at parsed
          cases parsed
      | error other =>
          rw [made] at parsed
          cases parsed
          exact ⟨contents, declares, (toClassDecl_eq_error_iff contents cause).mp made⟩
    · obtain ⟨_, failed⟩ := parse_of_not_declares declared
      rw [failed] at parsed
      cases parsed
  · intro refused
    obtain ⟨contents, declares, refused⟩ := refused
    rw [parse_of_declares declares, (toClassDecl_eq_error_iff contents cause).mpr refused]
    rfl

theorem parse_eq_format_iff (data : List UInt8) :
    (∃ cause, parse data = .error (.format cause)) ↔ ¬∃ contents, Declares data contents := by
  constructor
  · intro failed declared
    obtain ⟨cause, failed⟩ := failed
    obtain ⟨contents, declares⟩ := declared
    rw [parse_of_declares declares] at failed
    cases made : contents.toClassDecl with
    | ok decl =>
        rw [made] at failed
        cases failed
    | error rejection =>
        rw [made] at failed
        cases failed
  · exact parse_of_not_declares

/-- A byte string is taken for a class exactly if it starts with a class file whose class has a name.
A class file without a proper name is refused for its name, and all else for its format. -/
theorem parse_outcome (data : List UInt8) :
    (∀ decl, parse data = .ok decl ↔ Declares data (contentsOf decl)) ∧
      (∀ cause, parse data = .error (.rejected cause) ↔
        ∃ contents, Declares data contents ∧ Refused contents.name cause) ∧
      ((∃ cause, parse data = .error (.format cause)) ↔ ¬∃ contents, Declares data contents) ∧
      ∀ file : Layout (List UInt8), file.Admissible → file.ResolvesWithin :=
  ⟨parse_eq_ok_iff data, parse_eq_rejected_iff data, parse_eq_format_iff data,
    fun _ => Layout.Admissible.resolvesWithin⟩

end SurfaceDiff.ClassFile
