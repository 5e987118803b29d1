import SurfaceDiff.Proofs.Comparison.Invariance
import SurfaceDiff.Proofs.Comparison.Mirror
import SurfaceDiff.Proofs.Comparison.Session

/-!
Contract: what a comparison does not read of the surfaces.

Owns: erasures of surfaces, the theorem that surfaces which are the same after erasing all that is not
read are compared alike, and the share that the code of methods has in a report.
Does not own: order and duplicates.

An erasure is applied to both runs, so a change that it hides may be of any kind: made-up methods come
and go on one side, flags change, superclasses move. Whether a body is compared at all is decided by the
name on the left; the code that is then read on the right can be traced to that name only where names are
plain.
-/

namespace SurfaceDiff

open Text

/-! ## Erasures -/

/-- The method without flags, and without code if bodies of its name are never compared. -/
def Method.erased (method : Method) : Method :=
  { method with
    accessFlags := 0
    code := if volatileNames.contains method.name then none else method.code }

/-- The method without flags and code. -/
def Method.signature (method : Method) : Method :=
  { method with
    accessFlags := 0
    code := none }

/-- Bit 14 of the access flags. -/
def ClassDecl.enumBit (decl : ClassDecl) : Int :=
  decl.accessFlags / 0x4000 % 2 * 0x4000

/-- The class without its superclass and the methods that the compiler made up. -/
def ClassDecl.erased (flags : ClassDecl → Int) (method : Method → Method) (decl : ClassDecl) :
    ClassDecl :=
  { decl with
    accessFlags := flags decl
    superName := none
    methods := (Comparison.comparedMethods decl).map method }

def Package.erased (flags : ClassDecl → Int) (method : Method → Method) (package : Package) :
    Package :=
  { package with types := package.types.map (ClassDecl.erased flags method) }

/-- The surface without its source, and with the rest of it erased as far as the arguments say. -/
def Surface.erased (flags : ClassDecl → Int) (method : Method → Method) (surface : Surface) :
    Surface where
  packages := surface.packages.map (Package.erased flags method)

/-- The code that a comparison finds under these names, if it finds a method there. -/
def Surface.code? (surface : Surface) (package name key : CodePoints) :
    Option (Option (List UInt8)) :=
  ((surface.type? package name).bind fun decl => decl.method? key).map Method.code

theorem Surface.code?_eq {surface : Surface} {package name key : CodePoints} {decl : ClassDecl}
    {method : Method} (isType : surface.type? package name = some decl)
    (isMethod : decl.method? key = some method) :
    surface.code? package name key = some method.code := by
  unfold code?
  rw [isType, Option.bind_some, isMethod, Option.map_some]

namespace Comparison

/-- Two pairs of surfaces that are the same after the erasure: the flags of types are erased up to the
enum bit on the left, and as a whole on the right. -/
structure SameErased (method : Method → Method) (left right leftAfter rightAfter : Surface) :
    Prop where
  left : left.erased ClassDecl.enumBit method = leftAfter.erased ClassDecl.enumBit method
  right : right.erased (fun _ => 0) method = rightAfter.erased (fun _ => 0) method

/-- The method under these names has the same code in both pairs, on the left and on the right. -/
def CodeAgrees (left right leftAfter rightAfter : Surface) (package name key : CodePoints) : Prop :=
  left.code? package name key = leftAfter.code? package name key ∧
    right.code? package name key = rightAfter.code? package name key

instance (left right leftAfter rightAfter : Surface) (package name key : CodePoints) :
    Decidable (CodeAgrees left right leftAfter rightAfter package name key) := by
  unfold CodeAgrees
  infer_instance

/-- What two comparisons have in common whose surfaces differ in the code of methods. -/
structure AlikeButBodies (detectChanges : Bool) (left right leftAfter rightAfter : Surface)
    (run runAfter : Run Collected) : Prop where
  entries : run.state.entries.toList = (findings detectChanges left right).map Finding.entry
  entriesAfter : runAfter.state.entries.toList =
    (findings detectChanges leftAfter rightAfter).map Finding.entry
  presence : (runAfter.state.entries.toList.filter fun entry => entry.outcome ≠ .changed) =
    run.state.entries.toList.filter fun entry => entry.outcome ≠ .changed
  packagesCompared : runAfter.summary.packagesCompared = run.summary.packagesCompared
  typesCompared : runAfter.summary.typesCompared = run.summary.typesCompared
  methodsCompared : runAfter.summary.methodsCompared = run.summary.methodsCompared
  changed : ∀ package name,
    ((listsAt (.methods package name) .changed
        (findings detectChanges leftAfter rightAfter)).flatten.filter fun key =>
          CodeAgrees left right leftAfter rightAfter package name key) =
      (listsAt (.methods package name) .changed
        (findings detectChanges left right)).flatten.filter fun key =>
          CodeAgrees left right leftAfter rightAfter package name key

end Comparison

/-! ## First items up to an erasure -/

/-- The change leaves name and descriptor alone. -/
structure Method.KeepsSignature (change : Method → Method) : Prop where
  name : ∀ method, (change method).name = method.name
  descriptor : ∀ method, (change method).descriptor = method.descriptor

theorem Method.keepsSignature_erased : KeepsSignature erased where
  name _ := rfl
  descriptor _ := rfl

theorem Method.keepsSignature_signature : KeepsSignature signature where
  name _ := rfl
  descriptor _ := rfl

section Erased

variable {flags : ClassDecl → Int} {change : Method → Method}

theorem Method.KeepsSignature.name_eq (keeps : KeepsSignature change) {first second : Method}
    (same : change first = change second) : first.name = second.name := by
  rw [← keeps.name first, same, keeps.name]

theorem Method.KeepsSignature.key_eq (keeps : KeepsSignature change) {first second : Method}
    (same : change first = change second) : first.key = second.key := by
  have sameDescriptor : first.descriptor = second.descriptor := by
    rw [← keeps.descriptor first, same, keeps.descriptor]
  unfold key
  rw [keeps.name_eq same, sameDescriptor]

/-- Code survives the erasure where bodies are compared. -/
theorem Method.code_eq_of_erased {first second : Method} (same : first.erased = second.erased)
    (compared : ¬IsBodyExcluded first.name) : first.code = second.code := by
  have sameName : first.name = second.name := keepsSignature_erased.name_eq same
  have sameCode : first.erased.code = second.erased.code := congrArg Method.code same
  have isCompared : ¬volatileNames.contains first.name := fun volatile =>
    compared (.inl (List.contains_iff_mem.mp volatile))
  unfold Method.erased at sameCode
  rwa [if_neg isCompared, if_neg (sameName ▸ isCompared)] at sameCode

theorem ClassDecl.name_eq_of_erased {first second : ClassDecl}
    (same : first.erased flags change = second.erased flags change) : first.name = second.name := by
  show (first.erased flags change).name = (second.erased flags change).name
  rw [same]

theorem ClassDecl.flags_eq_of_erased {first second : ClassDecl}
    (same : first.erased flags change = second.erased flags change) : flags first = flags second := by
  show (first.erased flags change).accessFlags = (second.erased flags change).accessFlags
  rw [same]

theorem ClassDecl.firstsAgree_of_erased (keeps : Method.KeepsSignature change)
    {first second : ClassDecl}
    (same : first.erased flags change = second.erased flags change) :
    FirstsAgree Method.key (fun method other => change method = change other)
      (Comparison.comparedMethods first) (Comparison.comparedMethods second) := by
  have methods : (Comparison.comparedMethods first).map change =
      (Comparison.comparedMethods second).map change := congrArg ClassDecl.methods same
  exact .of_map_eq methods fun _ _ => keeps.key_eq

theorem Package.name_eq_of_erased {first second : Package}
    (same : first.erased flags change = second.erased flags change) : first.name = second.name := by
  show (first.erased flags change).name = (second.erased flags change).name
  rw [same]

theorem Package.firstsAgree_of_erased {first second : Package}
    (same : first.erased flags change = second.erased flags change) :
    FirstsAgree ClassDecl.key
      (fun decl other => decl.erased flags change = other.erased flags change)
      first.types second.types := by
  have types : first.types.map (ClassDecl.erased flags change) =
      second.types.map (ClassDecl.erased flags change) := congrArg Package.types same
  refine .of_map_eq types fun decl other same => ?_
  unfold ClassDecl.key ClassDecl.simpleName
  rw [ClassDecl.name_eq_of_erased same]

theorem Surface.firstsAgree_of_erased {first second : Surface}
    (same : first.erased flags change = second.erased flags change) :
    FirstsAgree Package.key
      (fun package other => package.erased flags change = other.erased flags change)
      first.packages second.packages := by
  have packages : first.packages.map (Package.erased flags change) =
      second.packages.map (Package.erased flags change) := congrArg Surface.packages same
  refine .of_map_eq packages fun package other same => ?_
  unfold Package.key
  rw [Package.name_eq_of_erased same]

/-- The types that two surfaces hold under the same names are the same after the erasure. -/
theorem Surface.type?_rel_of_erased {first second : Surface}
    (same : first.erased flags change = second.erased flags change) (package name : CodePoints) :
    Option.Rel (fun decl other => decl.erased flags change = other.erased flags change)
      (first.type? package name) (second.type? package name) := by
  have holders := firstsAgree_of_erased same package
  unfold type? package?
  unfold firstWithKey at holders
  generalize first.packages.find? _ = holder at holders ⊢
  generalize second.packages.find? _ = other at holders ⊢
  cases holders with
  | none => exact .none
  | some samePackage => exact Package.firstsAgree_of_erased samePackage name

end Erased

namespace Comparison

/-- Both types of a pair are the same after the erasure. -/
structure TypesErased (change : Method → Method) (types typesAfter : ClassDecl × ClassDecl) : Prop where
  left : types.1.erased ClassDecl.enumBit change = typesAfter.1.erased ClassDecl.enumBit change
  right : types.2.erased (fun _ => 0) change = typesAfter.2.erased (fun _ => 0) change

structure PackagesErased (change : Method → Method) (packages packagesAfter : Package × Package) :
    Prop where
  left : packages.1.erased ClassDecl.enumBit change = packagesAfter.1.erased ClassDecl.enumBit change
  right : packages.2.erased (fun _ => 0) change = packagesAfter.2.erased (fun _ => 0) change

/-! ## What a comparison goes through -/

section Traversal

variable {change : Method → Method} {left leftAfter right rightAfter : Surface}

theorem matchedMethods_erased (keeps : Method.KeepsSignature change)
    {types typesAfter : ClassDecl × ClassDecl} (same : TypesErased change types typesAfter) :
    List.Forall₂ (fun pair other => change pair.1 = change other.1 ∧ change pair.2 = change other.2)
      (matchedMethods types) (matchedMethods typesAfter) :=
  common_of_firstsAgree (ClassDecl.firstsAgree_of_erased keeps same.left)
    (ClassDecl.firstsAgree_of_erased keeps same.right)

theorem matchedTypes_erased {packages packagesAfter : Package × Package}
    (same : PackagesErased change packages packagesAfter) :
    List.Forall₂ (TypesErased change) (matchedTypes packages) (matchedTypes packagesAfter) :=
  (common_of_firstsAgree (Package.firstsAgree_of_erased same.left)
    (Package.firstsAgree_of_erased same.right)).imp fun _ _ agree => ⟨agree.1, agree.2⟩

theorem matchedPackages_erased (same : SameErased change left right leftAfter rightAfter) :
    List.Forall₂ (PackagesErased change) (matchedPackages left right)
      (matchedPackages leftAfter rightAfter) :=
  (common_of_firstsAgree (Surface.firstsAgree_of_erased same.left)
    (Surface.firstsAgree_of_erased same.right)).imp fun _ _ agree => ⟨agree.1, agree.2⟩

theorem visitedTypes_erased (same : SameErased change left right leftAfter rightAfter) :
    List.Forall₂ (TypesErased change) (visitedTypes left right) (visitedTypes leftAfter rightAfter) :=
  List.rel_flatMap (matchedPackages_erased same) fun _ _ => matchedTypes_erased

theorem visitedMethods_erased (keeps : Method.KeepsSignature change)
    (same : SameErased change left right leftAfter rightAfter) :
    List.Forall₂ (fun pair other => change pair.1 = change other.1 ∧ change pair.2 = change other.2)
      (visitedMethods left right) (visitedMethods leftAfter rightAfter) :=
  List.rel_flatMap (visitedTypes_erased same) fun _ _ => matchedMethods_erased keeps

end Traversal

/-! ## What a comparison finds -/

/-- The law for the findings of all levels: all depends on the changed bodies of each pair of types. -/
theorem findings_erased {change : Method → Method} {detectChanges : Bool}
    {left leftAfter right rightAfter : Surface} (keeps : Method.KeepsSignature change)
    (same : SameErased change left right leftAfter rightAfter)
    (bodies : ∀ packages ∈ matchedPackages left right, ∀ types ∈ matchedTypes packages,
      ∀ typesAfter, TypesErased change types typesAfter →
      bodyKeys detectChanges types .changed = bodyKeys detectChanges typesAfter .changed) :
    findings detectChanges left right = findings detectChanges leftAfter rightAfter := by
  refine findings_congr (Surface.firstsAgree_of_erased same.left)
    (Surface.firstsAgree_of_erased same.right) fun packages isCommon packagesAfter isLeft isRight => ?_
  refine packageFindings_congr (Package.name_eq_of_erased isLeft)
    (Package.firstsAgree_of_erased isLeft) (Package.firstsAgree_of_erased isRight)
    fun types isMatched typesAfter sameLeft sameRight => ?_
  exact typeFindings_congr (ClassDecl.name_eq_of_erased sameLeft)
    (ClassDecl.firstsAgree_of_erased keeps sameLeft) (ClassDecl.firstsAgree_of_erased keeps sameRight)
    (bodies packages isCommon types isMatched typesAfter ⟨sameLeft, sameRight⟩) packages.1.key

theorem isEnum_eq_of_enumBit {first second : ClassDecl} (same : first.enumBit = second.enumBit) :
    first.isEnum = second.isEnum := by
  unfold ClassDecl.enumBit at same
  unfold ClassDecl.isEnum
  have sameBit : first.accessFlags / 0x4000 % 2 = second.accessFlags / 0x4000 % 2 := by omega
  rw [sameBit]

/-- Types differ in the same bodies if the methods that both find under a key do. -/
theorem bodyDiffers_erased {change : Method → Method} {detectChanges : Bool}
    {types typesAfter : ClassDecl × ClassDecl} {key : CodePoints}
    (keeps : Method.KeepsSignature change) (same : TypesErased change types typesAfter)
    (pairs : ∀ first second firstAfter secondAfter,
      types.1.method? key = some first → types.2.method? key = some second →
      typesAfter.1.method? key = some firstAfter → typesAfter.2.method? key = some secondAfter →
      change first = change firstAfter → change second = change secondAfter →
      (first.code ≠ second.code ↔ firstAfter.code ≠ secondAfter.code) ∨ IsBodyExcluded first.name) :
    BodyDiffers detectChanges types.1 types.2 key ↔
      BodyDiffers detectChanges typesAfter.1 typesAfter.2 key := by
  have sameFlag := isEnum_eq_of_enumBit (ClassDecl.flags_eq_of_erased same.left)
  have isLeft := ClassDecl.firstsAgree_of_erased keeps same.left key
  have isRight := ClassDecl.firstsAgree_of_erased keeps same.right key
  rw [← ClassDecl.method?_eq_firstWithKey, ← ClassDecl.method?_eq_firstWithKey] at isLeft isRight
  unfold BodyDiffers
  rw [sameFlag]
  generalize isFirst : types.1.method? key = first at isLeft pairs ⊢
  generalize isFirstAfter : typesAfter.1.method? key = firstAfter at isLeft pairs ⊢
  generalize isSecond : types.2.method? key = second at isRight pairs ⊢
  generalize isSecondAfter : typesAfter.2.method? key = secondAfter at isRight pairs ⊢
  cases isLeft with
  | none => simp
  | @some first firstAfter sameFirst =>
      cases isRight with
      | none => simp
      | @some second secondAfter sameSecond =>
          have sameName : first.name = firstAfter.name := keeps.name_eq sameFirst
          have codes := pairs first second firstAfter secondAfter rfl rfl rfl rfl sameFirst sameSecond
          by_cases excluded : IsBodyExcluded first.name
          · simp [← sameName, excluded]
          · simp [← sameName, excluded, codes.resolve_right excluded]

/-! ## Erasing what is not read -/

theorem bodyKeys_erased {types typesAfter : ClassDecl × ClassDecl} (isLeft : types.1.HasPlainNames)
    (isRight : types.2.HasPlainNames) (same : TypesErased Method.erased types typesAfter)
    (detectChanges : Bool) :
    bodyKeys detectChanges types .changed = bodyKeys detectChanges typesAfter .changed := by
  refine (bodyKeys_increasing _ _).ext (bodyKeys_increasing _ _) fun key => ?_
  rw [mem_bodyKeys, mem_bodyKeys]
  refine bodyDiffers_erased Method.keepsSignature_erased same ?_
  intro first second firstAfter secondAfter isFirst isSecond _ _ sameFirst sameSecond
  by_cases excluded : IsBodyExcluded first.name
  · exact .inr excluded
  · -- The name on the left, which decides, is also that of the method on the right.
    have sameName : second.name = first.name := isLeft.name_eq_of_method? isRight isFirst isSecond
    have firstCode := Method.code_eq_of_erased sameFirst excluded
    have secondCode := Method.code_eq_of_erased sameSecond (sameName ▸ excluded)
    rw [firstCode, secondCode]
    exact .inl Iff.rfl

theorem reportsAlike_of_erased {left leftAfter right rightAfter : Surface}
    (isLeft : left.HasPlainNames) (isRight : right.HasPlainNames)
    (same : SameErased Method.erased left right leftAfter rightAfter) :
    ReportsAlike left right leftAfter rightAfter := by
  refine reportsAlike_of_findings (fun detectChanges => ?_) (matchedPackages_erased same).length_eq
    (visitedTypes_erased same).length_eq
    (visitedMethods_erased Method.keepsSignature_erased same).length_eq
  refine findings_erased Method.keepsSignature_erased same ?_
  intro packages common types isCommon typesAfter sameTypes
  obtain ⟨plain, alsoPlain⟩ := hasPlainNames_of_mem_matchedTypes isLeft isRight common isCommon
  exact bodyKeys_erased plain alsoPlain sameTypes detectChanges

/-! ## Erasing all code -/

section Signature

variable {left leftAfter right rightAfter : Surface}

/-- With bodies left out of account, the code of methods has no part in what a comparison finds. -/
theorem findings_signature (same : SameErased Method.signature left right leftAfter rightAfter) :
    findings false left right = findings false leftAfter rightAfter :=
  findings_erased Method.keepsSignature_signature same fun _ _ _ _ _ _ => by simp [bodyKeys]

/-- Where the code agrees, the same bodies differ. -/
theorem bodyDiffers_of_codeAgrees {detectChanges : Bool} {package name key : CodePoints}
    {types typesAfter : ClassDecl × ClassDecl} (same : TypesErased Method.signature types typesAfter)
    (isLeft : left.type? package name = some types.1)
    (isRight : right.type? package name = some types.2)
    (isLeftAfter : leftAfter.type? package name = some typesAfter.1)
    (isRightAfter : rightAfter.type? package name = some typesAfter.2)
    (agrees : CodeAgrees left right leftAfter rightAfter package name key) :
    BodyDiffers detectChanges types.1 types.2 key ↔
      BodyDiffers detectChanges typesAfter.1 typesAfter.2 key := by
  refine bodyDiffers_erased Method.keepsSignature_signature same ?_
  intro first second firstAfter secondAfter isFirst isSecond isFirstAfter isSecondAfter _ _
  obtain ⟨leftAgrees, rightAgrees⟩ := agrees
  rw [Surface.code?_eq isLeft isFirst, Surface.code?_eq isLeftAfter isFirstAfter,
    Option.some_inj] at leftAgrees
  rw [Surface.code?_eq isRight isSecond, Surface.code?_eq isRightAfter isSecondAfter,
    Option.some_inj] at rightAgrees
  rw [leftAgrees, rightAgrees]
  exact .inl Iff.rfl

/-- The changed methods of a type are the same on both sides, but for those whose code does not agree. -/
theorem changed_of_codeAgrees (same : SameErased Method.signature left right leftAfter rightAfter)
    (detectChanges : Bool) (package name : CodePoints) :
    ((listsAt (.methods package name) .changed
        (findings detectChanges leftAfter rightAfter)).flatten.filter fun key =>
          CodeAgrees left right leftAfter rightAfter package name key) =
      (listsAt (.methods package name) .changed
        (findings detectChanges left right)).flatten.filter fun key =>
          CodeAgrees left right leftAfter rightAfter package name key := by
  have leftRelated := Surface.type?_rel_of_erased same.left package name
  have rightRelated := Surface.type?_rel_of_erased same.right package name
  generalize isLeft : left.type? package name = leftType at leftRelated
  generalize isLeftAfter : leftAfter.type? package name = leftTypeAfter at leftRelated
  generalize isRight : right.type? package name = rightType at rightRelated
  generalize isRightAfter : rightAfter.type? package name = rightTypeAfter at rightRelated
  cases leftRelated with
  | none =>
      rw [listsAt_methods_of_missing _ _ (.inl isLeft),
        listsAt_methods_of_missing _ _ (.inl isLeftAfter)]
  | @some first firstAfter sameFirst =>
      cases rightRelated with
      | none =>
          rw [listsAt_methods_of_missing _ _ (.inr isRight),
            listsAt_methods_of_missing _ _ (.inr isRightAfter)]
      | @some second secondAfter sameSecond =>
          rw [flatten_listsAt_changed detectChanges isLeft isRight,
            flatten_listsAt_changed detectChanges isLeftAfter isRightAfter]
          refine ((bodyKeys_increasing _ _).filter _).ext ((bodyKeys_increasing _ _).filter _)
            fun key => ?_
          rw [List.mem_filter, List.mem_filter, mem_bodyKeys, mem_bodyKeys]
          refine and_congr_left fun agrees => ?_
          exact (bodyDiffers_of_codeAgrees ⟨sameFirst, sameSecond⟩ isLeft isRight isLeftAfter
            isRightAfter (of_decide_eq_true agrees)).symm

theorem alikeButBodies_of_erased
    (same : SameErased Method.signature left right leftAfter rightAfter) (detectChanges : Bool) :
    AlikeButBodies detectChanges left right leftAfter rightAfter
      (Surface.compare ⟨Collected.sink, detectChanges⟩ {} left right)
      (Surface.compare ⟨Collected.sink, detectChanges⟩ {} leftAfter rightAfter) := by
  have entries := Collected.entries_compare {} left right detectChanges
  have entriesAfter := Collected.entries_compare {} leftAfter rightAfter detectChanges
  constructor
  case entries => exact entries
  case entriesAfter => exact entriesAfter
  case presence =>
    have presence : ∀ first second : Surface,
        (((findings detectChanges first second).map Finding.entry).filter fun entry =>
          entry.outcome ≠ .changed) = (findings false first second).map Finding.entry := by
      intro first second
      rw [List.filter_map, ← filter_findings detectChanges]
      rfl
    rw [entries, entriesAfter]
    exact (presence _ _).trans (findings_signature same ▸ (presence _ _).symm)
  case packagesCompared =>
    rw [packagesCompared_compare, packagesCompared_compare, (matchedPackages_erased same).length_eq]
  case typesCompared =>
    rw [typesCompared_compare, typesCompared_compare, (visitedTypes_erased same).length_eq]
  case methodsCompared =>
    rw [methodsCompared_compare, methodsCompared_compare,
      (visitedMethods_erased Method.keepsSignature_signature same).length_eq]
  case changed => exact changed_of_codeAgrees same detectChanges

end Signature

/-- **What a report cannot depend on.** Surfaces that are the same after erasing what is never read are
compared alike; and surfaces that differ in the code of methods besides are reported alike up to the
changed bodies of these very methods. -/
theorem compare_ignores_erased (left right leftAfter rightAfter : Surface) :
    (left.HasPlainNames → right.HasPlainNames →
      SameErased Method.erased left right leftAfter rightAfter →
      ReportsAlike left right leftAfter rightAfter) ∧
    (SameErased Method.signature left right leftAfter rightAfter →
      ∀ detectChanges, AlikeButBodies detectChanges left right leftAfter rightAfter
        (Surface.compare ⟨Collected.sink, detectChanges⟩ {} left right)
        (Surface.compare ⟨Collected.sink, detectChanges⟩ {} leftAfter rightAfter)) :=
  ⟨reportsAlike_of_erased, alikeButBodies_of_erased⟩

/-- A surface of one class with these flags and methods. -/
def flaggedSample (accessFlags : Int) (methods : List Method) : Surface where
  packages := [⟨.ofString "p", [{ name := "p/Flagged", accessFlags, methods, name_ne_empty := by decide }]⟩]

def sampleMethod (name : String) (accessFlags : Int) (code : List UInt8) : Method :=
  ⟨.ofString name, .ofString "()V", accessFlags, some code⟩

def baseSample : Surface :=
  flaggedSample 0x21 [sampleMethod "run" 1 [0xB1], sampleMethod "toString" 1 [0xB1]]

/-- The same class with other flags, a made-up method and another body of `toString`. -/
def baseSampleAfter : Surface :=
  flaggedSample (-0x4001) [sampleMethod "access$0" 8 [0xB1], sampleMethod "run" 9 [0xB1],
    sampleMethod "toString" 1 [0x00, 0xB1]]

def targetSample (accessFlags : Int) (code : List UInt8) : Surface :=
  flaggedSample accessFlags [sampleMethod "run" 1 code]

theorem flaggedSample_hasPlainNames (accessFlags : Int) {methods : List Method}
    (plain : ∀ method ∈ methods, method.HasPlainName) :
    (flaggedSample accessFlags methods).HasPlainNames := by
  intro package isPackage decl isType
  obtain rfl := List.mem_singleton.mp isPackage
  obtain rfl := List.mem_singleton.mp isType
  exact plain

theorem baseSample_hasPlainNames : baseSample.HasPlainNames := by
  refine flaggedSample_hasPlainNames _ fun method isMethod => ?_
  rcases List.mem_pair.mp isMethod with rfl | rfl
  · show ¬CodePoints.ofString " ::" <:+: CodePoints.ofString "run"
    decide
  · show ¬CodePoints.ofString " ::" <:+: CodePoints.ofString "toString"
    decide +kernel

theorem targetSample_hasPlainNames (accessFlags : Int) (code : List UInt8) :
    (targetSample accessFlags code).HasPlainNames := by
  refine flaggedSample_hasPlainNames _ fun method isMethod => ?_
  obtain rfl := List.mem_singleton.mp isMethod
  show ¬CodePoints.ofString " ::" <:+: CodePoints.ofString "run"
  decide

/-- With another body of `run` on the right, the two sides no longer differ in it. -/
theorem compare_ignores_erased_flags :
    baseSample.HasPlainNames ∧ (targetSample 0 [0x00, 0xB1]).HasPlainNames ∧
      SameErased Method.erased baseSample (targetSample 0 [0x00, 0xB1]) baseSampleAfter
        (targetSample 0x4000 [0x00, 0xB1]) ∧
      SameErased Method.signature baseSample (targetSample 0 [0x00, 0xB1]) baseSampleAfter
        (targetSample 0x4000 [0xB1]) ∧
      ReportsAlike baseSample (targetSample 0 [0x00, 0xB1]) baseSampleAfter
        (targetSample 0x4000 [0x00, 0xB1]) ∧
      AlikeButBodies true baseSample (targetSample 0 [0x00, 0xB1]) baseSampleAfter
        (targetSample 0x4000 [0xB1])
        (Surface.compare ⟨Collected.sink, true⟩ {} baseSample (targetSample 0 [0x00, 0xB1]))
        (Surface.compare ⟨Collected.sink, true⟩ {} baseSampleAfter (targetSample 0x4000 [0xB1])) ∧
      reportsOf .changed (findings true baseSample (targetSample 0 [0x00, 0xB1])) =
        [(.methods (.ofString "p") (.ofString "Flagged"), [.ofString "run :: ()V"])] ∧
      reportsOf .changed (findings true baseSampleAfter (targetSample 0x4000 [0xB1])) = [] :=
  have isRight := targetSample_hasPlainNames 0 [0x00, 0xB1]
  have same : SameErased Method.erased baseSample (targetSample 0 [0x00, 0xB1]) baseSampleAfter
      (targetSample 0x4000 [0x00, 0xB1]) := ⟨rfl, rfl⟩
  have sameSignatures : SameErased Method.signature baseSample (targetSample 0 [0x00, 0xB1])
      baseSampleAfter (targetSample 0x4000 [0xB1]) := ⟨rfl, rfl⟩
  ⟨baseSample_hasPlainNames, isRight, same, sameSignatures,
    (compare_ignores_erased _ _ _ _).1 baseSample_hasPlainNames isRight same,
    (compare_ignores_erased _ _ _ _).2 sameSignatures true, by decide +kernel, by decide +kernel⟩

end Comparison

end SurfaceDiff
