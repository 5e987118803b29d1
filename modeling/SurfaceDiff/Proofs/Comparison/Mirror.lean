import SurfaceDiff.Proofs.Comparison.Reports
import SurfaceDiff.Proofs.Identity

/-!
Contract: a comparison and the one with its sides exchanged.

Owns: `Mirrored`, which says what the two have in common, and the theorem that it holds of any two
surfaces whose method names are plain.
Does not own: the case of other names, for which one key can stand for two names.

The code is not symmetric: labels, the enum flag, the excluded names and the reported keys are read
from the left side. Labels are left out of account here. Names are no matter of side, because a plain
name can be told from the key. The enum flag remains, and it decides about changed bodies alone.
-/

namespace SurfaceDiff

open Text

def ClassDecl.HasPlainNames (decl : ClassDecl) : Prop :=
  ∀ method ∈ decl.methods, method.HasPlainName

def Surface.HasPlainNames (surface : Surface) : Prop :=
  ∀ package ∈ surface.packages, ∀ decl ∈ package.types, decl.HasPlainNames

theorem Surface.HasPlainNames.of_type? {surface : Surface} (plain : surface.HasPlainNames)
    {package name : CodePoints} {decl : ClassDecl} (found : surface.type? package name = some decl) :
    decl.HasPlainNames := by
  obtain ⟨holder, isPackage, isType⟩ := (surface.type?_eq_some_iff package name decl).mp found
  exact plain holder (List.mem_of_find?_eq_some isPackage) decl (List.mem_of_find?_eq_some isType)

/-- Methods that are found under one key share their name, if names are plain. -/
theorem ClassDecl.HasPlainNames.name_eq_of_method? {left right : ClassDecl}
    (isLeft : left.HasPlainNames) (isRight : right.HasPlainNames) {key : CodePoints}
    {first second : Method} (isFirst : left.method? key = some first)
    (isSecond : right.method? key = some second) : second.name = first.name := by
  have sameKey : second.key = first.key := by
    rw [ClassDecl.key_of_method? isFirst, ClassDecl.key_of_method? isSecond]
  exact Method.name_eq_of_key_eq (isRight second (List.mem_of_find?_eq_some isSecond))
    (isLeft first (List.mem_of_find?_eq_some isFirst)) sameKey

/-- The class as if it were no enum, nor anything else that its flags say. -/
def ClassDecl.withoutFlags (decl : ClassDecl) : ClassDecl :=
  { decl with accessFlags := 0 }

/-- What the outcome becomes when the sides are exchanged. -/
def Outcome.mirrored : Outcome → Outcome
  | .added => .removed
  | .removed => .added
  | .changed => .changed

namespace Comparison

/-- The keys under which a comparison goes down: those of the packages, each with those of its types. -/
def traversedKeys (left right : Surface) : List (CodePoints × List CodePoints) :=
  (matchedPackages left right).map fun packages =>
    (packages.1.key, (matchedTypes packages).map fun types => types.1.key)

/-- The types agree on being enums. -/
def EnumsAgree (left right : Surface) : Prop :=
  ∀ package name first second, left.type? package name = some first →
    right.type? package name = some second → first.isEnum = second.isEnum

/-- The changed methods that both comparisons report of a type, in terms of its two sides. -/
structure BodiesMirrored (detectChanges : Bool) (left right : Surface) (package name : CodePoints)
    (first second : ClassDecl) : Prop where
  of_agree : first.isEnum = second.isEnum →
    listsAt (.methods package name) .changed (findings detectChanges right left) =
      listsAt (.methods package name) .changed (findings detectChanges left right)
  silent_of_enum : first.isEnum = true →
    listsAt (.methods package name) .changed (findings detectChanges left right) = []
  of_other_enum : first.isEnum = false → second.isEnum = true →
    listsAt (.methods package name) .changed (findings detectChanges left right) =
      listsAt (.methods package name) .changed
        (typeFindings detectChanges package (first.withoutFlags, second.withoutFlags))

/-- What two comparisons have in common whose sides are exchanged. -/
structure Mirrored (detectChanges : Bool) (left right : Surface) (forth back : Run Collected) :
    Prop where
  forth_entries : forth.state.entries.toList =
    (findings detectChanges left right).map Finding.entry
  back_entries : back.state.entries.toList = (findings detectChanges right left).map Finding.entry
  keys : traversedKeys right left = traversedKeys left right
  removed : reportsOf .removed (findings detectChanges right left) =
    reportsOf .added (findings detectChanges left right)
  added : reportsOf .added (findings detectChanges right left) =
    reportsOf .removed (findings detectChanges left right)
  packagesCompared : back.summary.packagesCompared = forth.summary.packagesCompared
  typesCompared : back.summary.typesCompared = forth.summary.typesCompared
  methodsCompared : back.summary.methodsCompared = forth.summary.methodsCompared
  removedCount : back.summary.removed = forth.summary.added
  addedCount : back.summary.added = forth.summary.removed
  bodies : ∀ package name first second, left.type? package name = some first →
    right.type? package name = some second →
    BodiesMirrored detectChanges left right package name first second ∧
      BodiesMirrored detectChanges right left package name second first
  entriesCount : EnumsAgree left right → back.summary.entries = forth.summary.entries
  changedCount : EnumsAgree left right → back.summary.changed = forth.summary.changed

/-! ## The traversal -/

theorem matchedPackages_swap (left right : Surface) :
    matchedPackages right left = (matchedPackages left right).map Prod.swap :=
  common_swap Package.key left.packages right.packages

theorem matchedTypes_swap (packages : Package × Package) :
    matchedTypes packages.swap = (matchedTypes packages).map Prod.swap :=
  common_swap ClassDecl.key packages.1.types packages.2.types

theorem matchedMethods_swap (types : ClassDecl × ClassDecl) :
    matchedMethods types.swap = (matchedMethods types).map Prod.swap :=
  common_swap Method.key (comparedMethods types.1) (comparedMethods types.2)

theorem keys_agree_of_mem_matchedPackages {left right : Surface} {packages : Package × Package}
    (common : packages ∈ matchedPackages left right) : packages.2.key = packages.1.key :=
  keys_agree_of_mem_common Package.key left.packages right.packages common

theorem keys_agree_of_mem_matchedTypes {packages : Package × Package}
    {types : ClassDecl × ClassDecl} (common : types ∈ matchedTypes packages) :
    types.2.key = types.1.key :=
  keys_agree_of_mem_common ClassDecl.key packages.1.types packages.2.types common

theorem traversedKeys_swap (left right : Surface) :
    traversedKeys right left = traversedKeys left right := by
  unfold traversedKeys
  rw [matchedPackages_swap, List.map_map]
  refine List.map_congr_left fun packages common => ?_
  have types : (matchedTypes packages.swap).map (fun types => types.1.key) =
      (matchedTypes packages).map fun types => types.1.key := by
    rw [matchedTypes_swap, List.map_map]
    refine List.map_congr_left fun types isCommon => ?_
    rw [Function.comp_apply, Prod.fst_swap]
    exact keys_agree_of_mem_matchedTypes isCommon
  exact Prod.ext (keys_agree_of_mem_matchedPackages common) types

/-! ## Bodies -/

theorem names_agree_of_mem_matchedMethods {types : ClassDecl × ClassDecl}
    (isLeft : types.1.HasPlainNames) (isRight : types.2.HasPlainNames) {pair : Method × Method}
    (common : pair ∈ matchedMethods types) : pair.2.name = pair.1.name := by
  obtain ⟨isFirst, isSecond⟩ := (mem_commonMethods types.1 types.2 pair.1 pair.2).mp common
  exact isLeft.name_eq_of_method? isRight isFirst isSecond

/-- Bodies differ in one direction if they do in the other, and under the same keys. -/
theorem changedKeys_swap {types : ClassDecl × ClassDecl} (isLeft : types.1.HasPlainNames)
    (isRight : types.2.HasPlainNames) :
    changedKeys (matchedMethods types.swap) = changedKeys (matchedMethods types) := by
  have names : ∀ pair ∈ matchedMethods types,
      pair.2.key = pair.1.key ∧ pair.2.name = pair.1.name :=
    fun pair common => ⟨keys_agree_of_mem_common Method.key _ _ common,
      names_agree_of_mem_matchedMethods isLeft isRight common⟩
  unfold changedKeys
  rw [matchedMethods_swap, List.filter_map, List.map_map]
  have same : (matchedMethods types).filter
        ((fun (pair : Method × Method) =>
          decide (¬IsBodyExcluded pair.1.name ∧ BodyChanged pair.1 pair.2)) ∘ Prod.swap) =
      (matchedMethods types).filter fun pair =>
        decide (¬IsBodyExcluded pair.1.name ∧ BodyChanged pair.1 pair.2) := by
    refine List.filter_congr fun pair common => decide_eq_decide.mpr ?_
    change ¬IsBodyExcluded pair.2.name ∧ pair.2.code ≠ pair.1.code ↔ _
    rw [(names pair common).2, ne_comm]
    rfl
  rw [same]
  refine List.map_congr_left fun pair member => ?_
  exact (names pair (List.mem_of_mem_filter member)).1

/-- Which of the two types is on the left matters to the changed bodies only if one of them is an
enum and the other is not. -/
theorem bodyKeys_swap (detectChanges : Bool) (outcome : Outcome) (types : ClassDecl × ClassDecl)
    (agree : outcome = .changed → types.1.HasPlainNames ∧ types.2.HasPlainNames ∧
      types.1.isEnum = types.2.isEnum) :
    bodyKeys detectChanges types.swap outcome.mirrored = bodyKeys detectChanges types outcome := by
  cases outcome with
  | added => rfl
  | removed => rfl
  | changed =>
      obtain ⟨isLeft, isRight, sameFlag⟩ := agree rfl
      simp only [bodyKeys, Outcome.mirrored, changedKeys_swap isLeft isRight, Prod.fst_swap,
        sameFlag]

/-! ## Reports -/

theorem presenceKeys_swap {α : Type} (key : α → CodePoints) (left right : List α)
    (outcome : Outcome) :
    presenceKeys key right left outcome.mirrored = presenceKeys key left right outcome := by
  cases outcome with
  | added => rfl
  | removed => rfl
  | changed => rfl

theorem reportsOf_typeFindings_swap {outcome : Outcome} {detectChanges : Bool}
    {types : ClassDecl × ClassDecl} (package : CodePoints) (sameKey : types.2.key = types.1.key)
    (bodies : bodyKeys detectChanges types.swap outcome.mirrored =
      bodyKeys detectChanges types outcome) :
    reportsOf outcome.mirrored (typeFindings detectChanges package types.swap) =
      reportsOf outcome (typeFindings detectChanges package types) := by
  rw [reportsOf_typeFindings, reportsOf_typeFindings, bodies, Prod.fst_swap, Prod.snd_swap,
    presenceKeys_swap, sameKey]

/-- At every level, what one comparison reports with an outcome is what the other reports with the
mirrored one. -/
theorem reportsOf_findings_swap (outcome : Outcome) {detectChanges : Bool} {left right : Surface}
    (bodies : ∀ packages ∈ matchedPackages left right, ∀ types ∈ matchedTypes packages,
      bodyKeys detectChanges types.swap outcome.mirrored = bodyKeys detectChanges types outcome) :
    reportsOf outcome.mirrored (findings detectChanges right left) =
      reportsOf outcome (findings detectChanges left right) := by
  rw [reportsOf_findings, reportsOf_findings, presenceKeys_swap, matchedPackages_swap,
    List.flatMap_map]
  refine congrArg _ (List.flatMap_congr fun packages common => ?_)
  rw [reportsOf_packageFindings, reportsOf_packageFindings, Prod.fst_swap, Prod.snd_swap,
    presenceKeys_swap, matchedTypes_swap, List.flatMap_map,
    keys_agree_of_mem_matchedPackages common]
  refine congrArg _ (List.flatMap_congr fun types isCommon => ?_)
  exact reportsOf_typeFindings_swap _ (keys_agree_of_mem_matchedTypes isCommon)
    (bodies packages common types isCommon)

theorem hasPlainNames_of_mem_matchedTypes {left right : Surface} (isLeft : left.HasPlainNames)
    (isRight : right.HasPlainNames) {packages : Package × Package}
    (common : packages ∈ matchedPackages left right) {types : ClassDecl × ClassDecl}
    (isCommon : types ∈ matchedTypes packages) :
    types.1.HasPlainNames ∧ types.2.HasPlainNames := by
  have holders := (mem_commonPackages left right packages.1 packages.2).mp common
  have decls := (mem_commonTypes packages.1 packages.2 types.1 types.2).mp isCommon
  exact ⟨isLeft packages.1 (List.mem_of_find?_eq_some holders.1) types.1
      (List.mem_of_find?_eq_some decls.1),
    isRight packages.2 (List.mem_of_find?_eq_some holders.2) types.2
      (List.mem_of_find?_eq_some decls.2)⟩

theorem isEnum_agrees_of_mem_matchedTypes {left right : Surface} (agree : EnumsAgree left right)
    {packages : Package × Package} (common : packages ∈ matchedPackages left right)
    {types : ClassDecl × ClassDecl} (isCommon : types ∈ matchedTypes packages) :
    types.1.isEnum = types.2.isEnum := by
  have holders := (mem_commonPackages left right packages.1 packages.2).mp common
  have decls := (mem_commonTypes packages.1 packages.2 types.1 types.2).mp isCommon
  exact agree packages.1.key types.1.key types.1 types.2
    ((Surface.type?_eq_some_iff left _ _ _).mpr ⟨packages.1, holders.1, decls.1⟩)
    ((Surface.type?_eq_some_iff right _ _ _).mpr ⟨packages.2, holders.2, decls.2⟩)

theorem bodiesMirrored {left right : Surface} (detectChanges : Bool)
    (isLeft : left.HasPlainNames) (isRight : right.HasPlainNames) {package name : CodePoints}
    {first second : ClassDecl} (isFirst : left.type? package name = some first)
    (isSecond : right.type? package name = some second) :
    BodiesMirrored detectChanges left right package name first second := by
  have firstKey : first.key = name := Surface.key_of_type? isFirst
  have secondKey : second.key = name := Surface.key_of_type? isSecond
  have forth : listsAt (.methods package name) .changed (findings detectChanges left right) =
      if bodyKeys detectChanges (first, second) .changed = [] then []
      else [bodyKeys detectChanges (first, second) .changed] := by
    rw [listsAt_methods .changed detectChanges isFirst isSecond, ← firstKey]
    exact listsAt_changed detectChanges package (first, second)
  have back : listsAt (.methods package name) .changed (findings detectChanges right left) =
      if bodyKeys detectChanges (second, first) .changed = [] then []
      else [bodyKeys detectChanges (second, first) .changed] := by
    rw [listsAt_methods .changed detectChanges isSecond isFirst, ← secondKey]
    exact listsAt_changed detectChanges package (second, first)
  constructor
  case of_agree =>
    intro sameFlag
    have bodies : bodyKeys detectChanges (second, first) .changed =
        bodyKeys detectChanges (first, second) .changed :=
      bodyKeys_swap detectChanges .changed (first, second)
        fun _ => ⟨isLeft.of_type? isFirst, isRight.of_type? isSecond, sameFlag⟩
    rw [forth, back, bodies]
  case silent_of_enum =>
    intro isEnum
    have silent : bodyKeys detectChanges (first, second) .changed = [] := by
      simp [bodyKeys, isEnum]
    rw [forth, if_pos silent]
  case of_other_enum =>
    intro isNoEnum _
    have plain : first.withoutFlags.isEnum = false := rfl
    have bodies : bodyKeys detectChanges (first.withoutFlags, second.withoutFlags) .changed =
        bodyKeys detectChanges (first, second) .changed := by
      simp only [bodyKeys, plain, isNoEnum]
      rfl
    have alone := listsAt_changed detectChanges package (first.withoutFlags, second.withoutFlags)
    rw [bodies] at alone
    rw [forth, ← alone, ← firstKey]
    rfl

/-! ## Counters -/

theorem visitedTypes_swap (left right : Surface) :
    visitedTypes right left = (visitedTypes left right).map Prod.swap := by
  unfold visitedTypes
  rw [matchedPackages_swap, List.flatMap_map, List.map_flatMap]
  exact List.flatMap_congr fun packages _ => matchedTypes_swap packages

theorem visitedMethods_swap (left right : Surface) :
    visitedMethods right left = (visitedMethods left right).map Prod.swap := by
  unfold visitedMethods
  rw [visitedTypes_swap, List.flatMap_map, List.map_flatMap]
  exact List.flatMap_congr fun types _ => matchedMethods_swap types

/-- **A comparison mirrors the one with its sides exchanged.** The two go the same way; what is removed
in one is added in the other; and changed bodies are the same but where one side is an enum. -/
theorem compare_mirrored (detectChanges : Bool) (left right : Surface)
    (isLeft : left.HasPlainNames) (isRight : right.HasPlainNames) :
    Mirrored detectChanges left right
      (Surface.compare ⟨Collected.sink, detectChanges⟩ {} left right)
      (Surface.compare ⟨Collected.sink, detectChanges⟩ {} right left) := by
  have presence : ∀ outcome, outcome ≠ .changed →
      reportsOf outcome.mirrored (findings detectChanges right left) =
        reportsOf outcome (findings detectChanges left right) :=
    fun outcome isPresence => reportsOf_findings_swap outcome fun _ _ types _ =>
      bodyKeys_swap detectChanges outcome types fun isChange => absurd isChange isPresence
  have removed : reportsOf .removed (findings detectChanges right left) =
      reportsOf .added (findings detectChanges left right) := presence .added (by decide)
  have added : reportsOf .added (findings detectChanges right left) =
      reportsOf .removed (findings detectChanges left right) := presence .removed (by decide)
  have changed : EnumsAgree left right →
      reportsOf .changed (findings detectChanges right left) =
        reportsOf .changed (findings detectChanges left right) := by
    intro agree
    refine reportsOf_findings_swap .changed fun packages common types isCommon => ?_
    have plain := hasPlainNames_of_mem_matchedTypes isLeft isRight common isCommon
    exact bodyKeys_swap detectChanges .changed types fun _ =>
      ⟨plain.1, plain.2, isEnum_agrees_of_mem_matchedTypes agree common isCommon⟩
  have tallied : ∀ first second : Surface,
      (Surface.compare ⟨Collected.sink, detectChanges⟩ {} first second).summary.Tallies
        ((findings detectChanges first second).map Finding.entry) :=
    tallies_compare ⟨Collected.sink, detectChanges⟩ {}
  have collected : ∀ first second : Surface,
      (Surface.compare ⟨Collected.sink, detectChanges⟩ {} first second).state.entries.toList =
        (findings detectChanges first second).map Finding.entry := by
    intro first second
    rw [state_compare, reported_collected]
    rfl
  have forth := tallied left right
  have back := tallied right left
  constructor
  case forth_entries => exact collected left right
  case back_entries => exact collected right left
  case keys => exact traversedKeys_swap left right
  case removed => exact removed
  case added => exact added
  case packagesCompared =>
    rw [packagesCompared_compare, packagesCompared_compare, matchedPackages_swap, List.length_map]
  case typesCompared =>
    rw [typesCompared_compare, typesCompared_compare, visitedTypes_swap, List.length_map]
  case methodsCompared =>
    rw [methodsCompared_compare, methodsCompared_compare, visitedMethods_swap, List.length_map]
  case removedCount =>
    rw [back.removed, forth.added, itemCount_eq_reportsOf, itemCount_eq_reportsOf, removed]
  case addedCount =>
    rw [back.added, forth.removed, itemCount_eq_reportsOf, itemCount_eq_reportsOf, added]
  case bodies =>
    intro package name first second isFirst isSecond
    exact ⟨bodiesMirrored detectChanges isLeft isRight isFirst isSecond,
      bodiesMirrored detectChanges isRight isLeft isSecond isFirst⟩
  case entriesCount =>
    intro agree
    rw [back.entries, forth.entries, List.length_map, List.length_map, length_eq_reportsOf,
      length_eq_reportsOf (findings detectChanges left right), removed, added, changed agree]
    omega
  case changedCount =>
    intro agree
    rw [back.changed, forth.changed, itemCount_eq_reportsOf, itemCount_eq_reportsOf,
      changed agree]

/-- A surface of the class `p.A`, which has these flags and a method `run` of these instructions. -/
def mirrorSample (accessFlags : Int) (code : List UInt8) : Surface where
  source := .ofString "sample"
  packages := [⟨.ofString "p", [{
    name := "p/A"
    accessFlags := accessFlags
    methods := [⟨.ofString "run", .ofString "()V", 0, some code⟩]
    name_ne_empty := by decide }]⟩]

theorem mirrorSample_hasPlainNames (accessFlags : Int) (code : List UInt8) :
    (mirrorSample accessFlags code).HasPlainNames := by
  intro package isPackage decl isType method isMethod
  obtain rfl := List.mem_singleton.mp isPackage
  obtain rfl := List.mem_singleton.mp isType
  obtain rfl := List.mem_singleton.mp isMethod
  show ¬CodePoints.ofString " ::" <:+: CodePoints.ofString "run"
  decide

/-- One side is an enum, and the instructions differ: only the run with the other side on the left
reports the method. -/
theorem compare_mirrored_enum :
    (mirrorSample 0x4000 [0xB1]).HasPlainNames ∧ (mirrorSample 0 [0x00, 0xB1]).HasPlainNames ∧
      Mirrored true (mirrorSample 0x4000 [0xB1]) (mirrorSample 0 [0x00, 0xB1])
        (Surface.compare ⟨Collected.sink, true⟩ {} (mirrorSample 0x4000 [0xB1])
          (mirrorSample 0 [0x00, 0xB1]))
        (Surface.compare ⟨Collected.sink, true⟩ {} (mirrorSample 0 [0x00, 0xB1])
          (mirrorSample 0x4000 [0xB1])) ∧
      reportsOf .changed (findings true (mirrorSample 0x4000 [0xB1]) (mirrorSample 0 [0x00, 0xB1])) =
        [] ∧
      reportsOf .changed (findings true (mirrorSample 0 [0x00, 0xB1]) (mirrorSample 0x4000 [0xB1])) =
        [(.methods (.ofString "p") (.ofString "A"), [.ofString "run :: ()V"])] :=
  have isLeft := mirrorSample_hasPlainNames 0x4000 [0xB1]
  have isRight := mirrorSample_hasPlainNames 0 [0x00, 0xB1]
  ⟨isLeft, isRight, compare_mirrored true _ _ isLeft isRight, by decide, by decide⟩

end Comparison

end SurfaceDiff
