import SurfaceDiff.Proofs.ClassFile.Acceptance
import SurfaceDiff.Proofs.Text.ModifiedUtf8

/-!
Contract: a class file that is meant, written out and read again.

Owns: which layouts are well formed, that each of them says something of its class, and that reading
its bytes gives just that, whatever follows them.
Does not own: layouts as they are found in bytes.
-/

namespace SurfaceDiff.ClassFile

open Text CodePoints

namespace Layout

/-! ## Well-formed layouts -/

/-- The indices of a method name texts, and the first attribute named `Code` holds instructions. -/
structure Member.WellFormed (texts : Nat → CodePoints → Prop) (member : Member) : Prop where
  name : ∃ name, texts member.nameIndex.toNat name ∧ SurrogateFree name
  descriptor : ∃ descriptor, texts member.descriptorIndex.toNat descriptor ∧
    SurrogateFree descriptor
  attributeNames : ∀ item ∈ member.attributes, ∃ name, texts item.nameIndex.toNat name
  code : ∀ before item after, member.attributes = before ++ item :: after →
    texts item.nameIndex.toNat (.ofString "Code") →
    (∀ earlier ∈ before, ¬texts earlier.nameIndex.toNat (.ofString "Code")) →
    ∃ code, HoldsCode item.payload code

structure WellFormed (file : Layout CodePoints) : Prop where
  texts : ∀ content, .text content ∈ file.constants →
    (ModifiedUtf8.encode content).length < 0x10000
  poolCount : file.poolCount.toNat = 1 + totalSlots file.constants
  name : ∃ name, ClassAt file.constants file.thisIndex.toNat name ∧ name ≠ [] ∧
    SurrogateFree name
  superName : file.superIndex.toNat ≠ 0 →
    ∃ name, ClassAt file.constants file.superIndex.toNat name ∧ SurrogateFree name
  methods : ∀ member ∈ file.methods, member.WellFormed (TextAt file.constants)

/-! ## A layout says one thing at most -/

theorem superOf_unique {constants : List (Constant CodePoints)} {index : Nat}
    {first second : Option CodePoints} (isFirst : SuperOf (ClassAt constants) index first)
    (isSecond : SuperOf (ClassAt constants) index second) : first = second := by
  cases isFirst with
  | none =>
      cases isSecond with
      | none => rfl
      | some present _ => exact absurd rfl present
  | some present isFirst =>
      cases isSecond with
      | none => exact absurd rfl present
      | some _ isSecond => rw [classAt_unique isFirst isSecond]

section Methods

variable {texts : Nat → CodePoints → Prop}

theorem holdsCode_unique {payload first second : List UInt8} (isFirst : HoldsCode payload first)
    (isSecond : HoldsCode payload second) : first = second := by
  rw [← run_readInstructions_eq_ok_iff] at isFirst isSecond
  exact Except.ok.inj (isFirst.symm.trans isSecond)

theorem codeOf_unique
    (unique : ∀ index first second, texts index first → texts index second → first = second)
    {items : List Attribute} {first second : Option (List UInt8)}
    (isFirst : CodeOf texts items first) (isSecond : CodeOf texts items second) :
    first = second := by
  induction isFirst with
  | absent =>
      cases isSecond
      rfl
  | other named different _ inductionHypothesis =>
      cases isSecond with
      | other _ _ later => exact inductionHypothesis later
      | first isCode _ => exact absurd (unique _ _ _ named isCode) different
  | first isCode holds =>
      cases isSecond with
      | other named different _ => exact absurd (unique _ _ _ named isCode) different
      | first _ others => rw [holdsCode_unique holds others]

theorem denotesMethod_unique
    (unique : ∀ index first second, texts index first → texts index second → first = second)
    {member : Member} {first second : Method} (isFirst : DenotesMethod texts member first)
    (isSecond : DenotesMethod texts member second) : first = second := by
  have name := unique _ _ _ isFirst.name isSecond.name
  have descriptor := unique _ _ _ isFirst.descriptor isSecond.descriptor
  have accessFlags := isFirst.accessFlags.trans isSecond.accessFlags.symm
  have code := codeOf_unique unique isFirst.code isSecond.code
  cases first
  cases second
  simp_all only

end Methods

/-- A layout says one thing at most. -/
theorem Denotes.unique {file : Layout CodePoints} {first second : Contents}
    (isFirst : file.Denotes first) (isSecond : file.Denotes second) : first = second := by
  have name := classAt_unique isFirst.name isSecond.name
  have accessFlags := isFirst.accessFlags.trans isSecond.accessFlags.symm
  have superName := superOf_unique isFirst.superName isSecond.superName
  have rightUnique : Relator.RightUnique (DenotesMethod (TextAt file.constants)) :=
    fun _ _ _ one other => denotesMethod_unique textAt_unique one other
  have methods := rightUnique.forall₂ isFirst.methods isSecond.methods
  cases first
  cases second
  simp_all only

/-! ## A well-formed layout says something -/

section Existence

variable {texts : Nat → CodePoints → Prop}

theorem exists_codeOf
    (unique : ∀ index first second, texts index first → texts index second → first = second)
    {items : List Attribute} (named : ∀ item ∈ items, ∃ name, texts item.nameIndex.toNat name)
    (holds : ∀ before item after, items = before ++ item :: after →
      texts item.nameIndex.toNat (.ofString "Code") →
      (∀ earlier ∈ before, ¬texts earlier.nameIndex.toNat (.ofString "Code")) →
      ∃ code, HoldsCode item.payload code) :
    ∃ code, CodeOf texts items code := by
  induction items with
  | nil => exact ⟨none, .absent⟩
  | cons item rest inductionHypothesis =>
      obtain ⟨⟨name, isName⟩, named⟩ := List.forall_mem_cons.mp named
      by_cases isCode : name = .ofString "Code"
      · rw [isCode] at isName
        obtain ⟨code, holdsCode⟩ := holds [] item rest rfl isName (by simp)
        exact ⟨some code, .first isName holdsCode⟩
      · have notCode : ¬texts item.nameIndex.toNat (.ofString "Code") := fun code =>
          isCode (unique _ _ _ isName code)
        -- The attribute decides nothing, so the first one named `Code` is the first of the rest.
        have later : ∃ code, CodeOf texts rest code := by
          refine inductionHypothesis named fun before other after split isOther without => ?_
          refine holds (item :: before) other after (by rw [split]; rfl) isOther ?_
          exact List.forall_mem_cons.mpr ⟨notCode, without⟩
        obtain ⟨code, isLater⟩ := later
        exact ⟨code, .other isName isCode isLater⟩

theorem Member.WellFormed.exists_method
    (unique : ∀ index first second, texts index first → texts index second → first = second)
    {member : Member} (wellFormed : member.WellFormed texts) :
    ∃ method, DenotesMethod texts member method ∧ SurrogateFree method.name ∧
      SurrogateFree method.descriptor := by
  obtain ⟨name, named, nameFree⟩ := wellFormed.name
  obtain ⟨descriptor, described, descriptorFree⟩ := wellFormed.descriptor
  obtain ⟨code, isCode⟩ := exists_codeOf unique wellFormed.attributeNames wellFormed.code
  exact ⟨⟨name, descriptor, member.accessFlags.toNat, code⟩,
    ⟨named, described, rfl, wellFormed.attributeNames, isCode⟩, nameFree, descriptorFree⟩

theorem exists_forall₂ {α β : Type} {relation : α → β → Prop} {items : List α}
    (related : ∀ item ∈ items, ∃ value, relation item value) :
    ∃ values, List.Forall₂ relation items values := by
  induction items with
  | nil => exact ⟨[], .nil⟩
  | cons item rest inductionHypothesis =>
      obtain ⟨⟨value, isValue⟩, related⟩ := List.forall_mem_cons.mp related
      obtain ⟨values, areValues⟩ := inductionHypothesis related
      exact ⟨value :: values, .cons isValue areValues⟩

end Existence

/-! ## Other forms of the texts

A form that may change texts but not the names that are used leaves what is denoted alone. -/

section Form

variable {form : CodePoints → CodePoints} {constants : List (Constant CodePoints)}

theorem At.map {index : Nat} {constant : Constant CodePoints} (isAt : At constants index constant) :
    At (constants.map (Constant.map form)) index (constant.map form) := by
  obtain ⟨before, after, rfl, position⟩ := isAt
  refine ⟨before.map (Constant.map form), after.map (Constant.map form), ?_, ?_⟩
  · rw [List.map_append, List.map_cons]
  · rw [totalSlots_map, position]

theorem TextAt.map {index : Nat} {content : CodePoints} (isText : TextAt constants index content) :
    TextAt (constants.map (Constant.map form)) index (form content) :=
  At.map isText

theorem ClassAt.map {index : Nat} {name : CodePoints} (isClass : ClassAt constants index name) :
    ClassAt (constants.map (Constant.map form)) index (form name) := by
  obtain ⟨nameIndex, isAt, isText⟩ := isClass
  exact ⟨nameIndex, At.map isAt, isText.map⟩

theorem CodeOf.map {texts others : Nat → CodePoints → Prop}
    (moved : ∀ index name, texts index name → others index (form name))
    (isCode : ∀ name, form name = .ofString "Code" ↔ name = .ofString "Code")
    {items : List Attribute} {code : Option (List UInt8)} (denoted : CodeOf texts items code) :
    CodeOf others items code := by
  induction denoted with
  | absent => exact .absent
  | other named different _ inductionHypothesis =>
      exact .other (moved _ _ named) (mt (isCode _).mp different) inductionHypothesis
  | first named holds => exact .first ((isCode _).mpr rfl ▸ moved _ _ named) holds

theorem DenotesMethod.map {texts others : Nat → CodePoints → Prop}
    (moved : ∀ index name, texts index name → others index (form name))
    (isCode : ∀ name, form name = .ofString "Code" ↔ name = .ofString "Code")
    {member : Member} {method : Method} (denoted : DenotesMethod texts member method)
    (sameName : form method.name = method.name)
    (sameDescriptor : form method.descriptor = method.descriptor) :
    DenotesMethod others member method where
  name := sameName ▸ moved _ _ denoted.name
  descriptor := sameDescriptor ▸ moved _ _ denoted.descriptor
  accessFlags := denoted.accessFlags
  attributeNames := by
    intro item inMember
    obtain ⟨name, named⟩ := denoted.attributeNames item inMember
    exact ⟨form name, moved _ _ named⟩
  code := denoted.code.map moved isCode

end Form

/-! ## The round trip -/

theorem joinPairs_eq_code_iff (points : CodePoints) :
    joinPairs points = .ofString "Code" ↔ points = .ofString "Code" := by
  have fixed : joinPairs (.ofString "Code") = .ofString "Code" :=
    joinPairs_of_surrogateFree (surrogateFree_ofString "Code")
  constructor
  · intro isCode
    -- `Code` holds no supplementary code point, so no pair was joined to it.
    have basic : ∀ point ∈ joinPairs points, point.value < 0x10000 := by
      rw [isCode]
      decide
    rw [← isCode, eq_joinPairs_of_basic basic]
  · intro isCode
    rw [isCode, fixed]

theorem map_encode_map_decoded (file : Layout CodePoints) :
    (file.map ModifiedUtf8.encode).map decoded = file.map joinPairs := by
  have texts : (Constant.map decoded ∘ Constant.map ModifiedUtf8.encode) =
      Constant.map joinPairs := by
    funext constant
    cases constant with
    | text content => exact congrArg Constant.text (decoded_of_eq_ok (ModifiedUtf8.decode_encode _))
    | classRef | other => rfl
  unfold map
  rw [List.map_map, texts]

theorem WellFormed.admissible {file : Layout CodePoints} (wellFormed : file.WellFormed) :
    (file.map ModifiedUtf8.encode).Admissible where
  poolCount := .inl (by rw [map, totalSlots_map]; exact wellFormed.poolCount)
  texts := by
    intro constant inFile
    obtain ⟨meant, isMeant, rfl⟩ := List.mem_map.mp inFile
    cases meant with
    | text content =>
        exact ⟨wellFormed.texts content isMeant, _, ModifiedUtf8.decode_encode content⟩
    | classRef | other => trivial

/-- What a well-formed layout says of its class it says with its pairs joined, too. -/
theorem WellFormed.exists_denoted {file : Layout CodePoints} (wellFormed : file.WellFormed) :
    ∃ decl, file.Denotes (contentsOf decl) ∧
      (file.map joinPairs).Denotes (contentsOf decl) := by
  obtain ⟨points, named, nonempty, free⟩ := wellFormed.name
  obtain ⟨name, rfl⟩ := (surrogateFree_iff_exists points).mp free
  have isNamed : name ≠ "" := fun isEmpty => nonempty (isEmpty ▸ rfl)
  have moved (index : Nat) (content : CodePoints) (isText : TextAt file.constants index content) :
      TextAt (file.map joinPairs).constants index (joinPairs content) := isText.map
  have namedJoined : ClassAt (file.map joinPairs).constants file.thisIndex.toNat
      (joinPairs (.ofString name)) := named.map
  rw [joinPairs_of_surrogateFree free] at namedJoined
  have superName : ∃ superName, SuperOf (ClassAt file.constants) file.superIndex.toNat superName ∧
      SuperOf (ClassAt (file.map joinPairs).constants) file.superIndex.toNat superName := by
    by_cases absent : file.superIndex.toNat = 0
    · rw [absent]
      exact ⟨none, .none, .none⟩
    · obtain ⟨superName, isSuper, superFree⟩ := wellFormed.superName absent
      refine ⟨some superName, .some absent isSuper, .some absent ?_⟩
      exact joinPairs_of_surrogateFree superFree ▸ isSuper.map
  have methods : ∃ methods, List.Forall₂ (fun member method =>
      DenotesMethod (TextAt file.constants) member method ∧
        DenotesMethod (TextAt (file.map joinPairs).constants) member method)
      file.methods methods := by
    apply exists_forall₂
    intro member inFile
    obtain ⟨method, denoted, nameFree, descriptorFree⟩ :=
      (wellFormed.methods member inFile).exists_method textAt_unique
    exact ⟨method, denoted, denoted.map moved joinPairs_eq_code_iff
      (joinPairs_of_surrogateFree nameFree) (joinPairs_of_surrogateFree descriptorFree)⟩
  obtain ⟨superName, isSuper, isSuperJoined⟩ := superName
  obtain ⟨methods, denoted⟩ := methods
  exact ⟨⟨name, file.accessFlags.toNat, superName, methods, isNamed⟩,
    ⟨named, rfl, isSuper, denoted.imp fun _ _ both => both.1⟩,
    ⟨namedJoined, rfl, isSuperJoined, denoted.imp fun _ _ both => both.2⟩⟩

/-- A well-formed class file says one thing of its class, and it is read as that, whatever follows
it. -/
theorem parse_bytes_append {file : Layout CodePoints} (wellFormed : file.WellFormed) :
    ∃ decl, (∀ contents, file.Denotes contents ↔ contents = contentsOf decl) ∧
      ∀ trailing, parse ((file.map ModifiedUtf8.encode).bytes ++ trailing) = .ok decl := by
  obtain ⟨decl, denoted, joined⟩ := wellFormed.exists_denoted
  refine ⟨decl, fun contents => ⟨fun other => other.unique denoted, ?_⟩, fun trailing => ?_⟩
  · intro same
    exact same ▸ denoted
  · rw [← map_encode_map_decoded] at joined
    exact (parse_eq_ok_iff _ decl).mpr ⟨_, trailing, rfl, wellFormed.admissible, joined⟩

/-- A class `A` below `B` with a method `run`; its first constant refers forward, past a long. -/
def sample : Layout CodePoints where
  minorVersion := 0
  majorVersion := 61
  poolCount := 10
  constants := [.classRef 4, .other .long [0, 0, 0, 0, 0, 0, 0, 7] rfl, .text (.ofString "A"),
    .text (.ofString "run"), .text (.ofString "()V"), .text (.ofString "Code"), .classRef 9,
    .text (.ofString "B")]
  accessFlags := 0x21
  thisIndex := 1
  superIndex := 8
  interfaces := [8]
  interfaces_fit := by decide
  fields := [⟨2, 5, 6, [⟨7, [1, 2, 3], by decide⟩], by decide⟩]
  fields_fit := by decide
  methods := [⟨1, 5, 6, [⟨7, [0, 1, 0, 1, 0, 0, 0, 1, 0xB1, 0, 0, 0, 0], by decide⟩], by decide⟩]
  methods_fit := by decide

theorem sample_wellFormed : sample.WellFormed where
  texts := by
    intro content inSample
    simp only [sample, List.mem_cons, reduceCtorEq, Constant.text.injEq, List.not_mem_nil, false_or,
      or_false] at inSample
    rcases inSample with rfl | rfl | rfl | rfl | rfl <;> decide
  poolCount := rfl
  name := ⟨.ofString "A", ⟨4, ⟨[], sample.constants.drop 1, rfl, rfl⟩,
    sample.constants.take 2, sample.constants.drop 3, rfl, rfl⟩, by decide, by decide⟩
  superName := fun _ => ⟨.ofString "B", ⟨9, ⟨sample.constants.take 6, sample.constants.drop 7,
    rfl, rfl⟩, sample.constants.take 7, [], rfl, rfl⟩, by decide⟩
  methods := by
    intro member inSample
    obtain rfl := List.mem_singleton.mp inSample
    exact {
      name := ⟨.ofString "run", ⟨sample.constants.take 3, sample.constants.drop 4, rfl, rfl⟩,
        by decide⟩
      descriptor := ⟨.ofString "()V", ⟨sample.constants.take 4, sample.constants.drop 5, rfl, rfl⟩,
        by decide⟩
      attributeNames := by
        intro item inMember
        obtain rfl := List.mem_singleton.mp inMember
        exact ⟨.ofString "Code", sample.constants.take 5, sample.constants.drop 6, rfl, rfl⟩
      code := by
        intro before item after split _ _
        cases before with
        | nil =>
            obtain ⟨rfl, _⟩ := List.cons.inj split
            exact ⟨[0xB1], 1, 1, [0, 0, 0, 0], by decide, rfl⟩
        | cons head before =>
            have length := congrArg List.length split
            simp at length }

theorem parse_bytes_append_sample :
    sample.WellFormed ∧
      ∃ decl, (∀ contents, sample.Denotes contents ↔ contents = contentsOf decl) ∧
        ∀ trailing, parse ((sample.map ModifiedUtf8.encode).bytes ++ trailing) = .ok decl :=
  ⟨sample_wellFormed, parse_bytes_append sample_wellFormed⟩

end Layout

end SurfaceDiff.ClassFile
