import SurfaceDiff.Proofs.Comparison.Session
import SurfaceDiff.Proofs.Report.JsonRoundTrip

/-!
Contract: the lines of a report in JSON, as they are written and as they are read.

Owns: that a line is printable ASCII up to its line break, what an entry and the counters become when
their lines are read, and that a text splits into the lines that it was made of.
Does not own: which entries a comparison reports.

The level and the items of an entry come back with their pairs joined: `Entry.joined` is what becomes of it.
-/

namespace SurfaceDiff

open Text

/-- The entry with the surrogate pairs of its texts replaced by their code points. -/
def Entry.joined (entry : Entry) : Entry where
  level := entry.level.joinPairs
  outcome := entry.outcome
  items := entry.items.map CodePoints.joinPairs

theorem Entry.joined_of_unpaired {entry : Entry} (level : CodePoints.Unpaired entry.level)
    (unpaired : ∀ item ∈ entry.items, CodePoints.Unpaired item) : entry.joined = entry := by
  have same : entry.items.map CodePoints.joinPairs = entry.items := by
    rw [List.map_congr_left fun item member => CodePoints.joinPairs_of_unpaired (unpaired item member)]
    exact List.map_id _
  unfold joined
  rw [same, CodePoints.joinPairs_of_unpaired level]

namespace Report.Json

/-! ## What stands in a line -/

/-- Only printable characters of ASCII stand in a text. -/
def PlainText (text : String) : Prop :=
  ∀ character ∈ text.toList, IsPlain character

instance (text : String) : Decidable (PlainText text) :=
  List.decidableBAll IsPlain text.toList

theorem plainText_text (points : CodePoints) : PlainText (text points) :=
  fun _ member => isPlain_of_mem_text member

theorem plainText_append {first second : String} (isFirst : PlainText first)
    (isSecond : PlainText second) : PlainText (first ++ second) := by
  intro character member
  rw [String.toList_append, List.mem_append] at member
  rcases member with inFirst | inSecond
  · exact isFirst character inFirst
  · exact isSecond character inSecond

theorem plainText_intercalate {between : String} {texts : List String}
    (isBetween : PlainText between) (areTexts : ∀ text ∈ texts, PlainText text) :
    PlainText (between.intercalate texts) := by
  induction texts with
  | nil => exact nofun
  | cons text texts inductionHypothesis =>
      obtain ⟨isText, areTexts⟩ := List.forall_mem_cons.mp areTexts
      cases texts with
      | nil => exact isText
      | cons next texts =>
          rw [String.intercalate_cons_cons]
          exact plainText_append (plainText_append isText isBetween) (inductionHypothesis areTexts)

theorem plainText_natural (number : Nat) : PlainText number.repr := by
  intro character member
  rw [Nat.toList_repr] at member
  have isDigit := Nat.isDigit_of_mem_toDigits (by decide) (by decide) member
  simp only [Char.isDigit, Bool.and_eq_true, decide_eq_true_eq] at isDigit
  exact ⟨UInt32.le_trans (by decide) isDigit.1, UInt32.le_trans isDigit.2 (by decide)⟩

theorem plainText_number (number : Int) : PlainText (toString number) := by
  have isText : toString number = number.repr := rfl
  rw [isText, Int.repr_eq_if]
  split
  case isTrue => exact plainText_natural _
  case isFalse => exact plainText_append (by decide) (plainText_natural _)

theorem plainText_array {texts : List String} (areTexts : ∀ text ∈ texts, PlainText text) :
    PlainText (array texts) := by
  have separated : PlainText (", ".intercalate texts) :=
    plainText_intercalate (by decide) areTexts
  exact plainText_append (plainText_append (by decide) separated) (by decide)

theorem plainText_object {members : List (String × String)}
    (areTexts : ∀ member ∈ members, PlainText member.2) : PlainText (object members) := by
  have areMembers : ∀ text ∈ members.map memberText, PlainText text := by
    intro text isMember
    obtain ⟨member, inMembers, rfl⟩ := List.mem_map.mp isMember
    have name : PlainText (string member.1) := plainText_text _
    exact plainText_append (plainText_append name (by decide)) (areTexts member inMembers)
  have separated : PlainText (", ".intercalate (members.map memberText)) :=
    plainText_intercalate (by decide) areMembers
  exact plainText_append (plainText_append (by decide) separated) (by decide)

/-! ## One line -/

/-- The object of an entry, which is its line without the line break. -/
def entryObject (entry : Entry) : String :=
  object [
    ("items", array (entry.items.map text)),
    ("level", text entry.level),
    ("outcome", string entry.outcome.name)
  ]

theorem entryLine_eq (entry : Entry) : entryLine entry = entryObject entry ++ "\n" :=
  rfl

/-- The counters by name, in the order of their names. -/
def counters (summary : Summary) : List (String × Int) :=
  [("added", summary.added), ("changed", summary.changed), ("entries", summary.entries),
    ("methods_compared", summary.methodsCompared),
    ("packages_compared", summary.packagesCompared), ("removed", summary.removed),
    ("types_compared", summary.typesCompared)]

/-- The object of the counters, which is the closing line without the line break. -/
def summaryObject (summary : Summary) : String :=
  object [("summary", object ((counters summary).map fun (name, count) => (name, toString count)))]

theorem summaryLine_eq (summary : Summary) :
    summaryLine summary = summaryObject summary ++ "\n" :=
  rfl

theorem plainText_entryObject (entry : Entry) : PlainText (entryObject entry) := by
  apply plainText_object
  intro member isMember
  simp only [List.mem_cons, List.not_mem_nil, or_false] at isMember
  rcases isMember with rfl | rfl | rfl
  · apply plainText_array
    intro item isItem
    obtain ⟨points, _, rfl⟩ := List.mem_map.mp isItem
    exact plainText_text points
  · exact plainText_text _
  · exact plainText_text _

theorem plainText_summaryObject (summary : Summary) : PlainText (summaryObject summary) := by
  apply plainText_object
  intro member isMember
  rw [List.mem_singleton] at isMember
  subst isMember
  apply plainText_object
  intro counter isCounter
  obtain ⟨⟨name, count⟩, _, rfl⟩ := List.mem_map.mp isCounter
  exact plainText_number count

/-- What an entry says as a value of JSON. -/
def entryValue (entry : Entry) : Value :=
  .object [
    (.ofString "items", .array (entry.items.map fun item => .string (CodePoints.joinPairs item))),
    (.ofString "level", .string entry.level.joinPairs),
    (.ofString "outcome", .string (.ofString entry.outcome.name))]

theorem expresses_entry (entry : Entry) : Expresses 3 (entryObject entry) (entryValue entry) := by
  have items : List.Forall₂ (Expresses 1) (entry.items.map text)
      (entry.items.map fun item => .string (CodePoints.joinPairs item)) := by
    rw [List.forall₂_map_left_iff, List.forall₂_map_right_iff, List.forall₂_same]
    exact fun item _ => expresses_text item
  apply expresses_object
  exact .cons ⟨rfl, expresses_array items⟩ (.cons ⟨rfl, (expresses_text _).mono (by decide)⟩
    (.cons ⟨rfl, (expresses_string _).mono (by decide)⟩ .nil))

/-- What the counters say as a value of JSON. -/
def summaryValue (summary : Summary) : Value :=
  .object [(.ofString "summary",
    .object ((counters summary).map fun (name, count) => (.ofString name, .number count)))]

theorem expresses_summary (summary : Summary) :
    Expresses 3 (summaryObject summary) (summaryValue summary) := by
  have inner : Expresses 2
      (object ((counters summary).map fun (name, count) => (name, toString count)))
      (.object ((counters summary).map fun (name, count) => (.ofString name, .number count))) := by
    apply expresses_object
    rw [List.forall₂_map_left_iff, List.forall₂_map_right_iff, List.forall₂_same]
    exact fun (name, count) _ => ⟨rfl, expresses_number count⟩
  apply expresses_object
  exact .cons ⟨rfl, inner⟩ .nil

theorem toString?_ofString (text : String) :
    CodePoints.toString? (.ofString text) = some text :=
  (CodePoints.toString?_eq_some_iff _ text).mpr rfl

theorem asEntry_entryValue (entry : Entry) : (entryValue entry).asEntry = some entry.joined := by
  have outcome := (Outcome.ofName_eq_ok_iff entry.outcome.name entry.outcome).mpr rfl
  have items : (entry.items.map fun item => Value.string (CodePoints.joinPairs item)).mapM
      Value.text? = some (entry.items.map CodePoints.joinPairs) := by
    induction entry.items with
    | nil => rfl
    | cons item items inductionHypothesis =>
        simp [List.mapM_cons, inductionHypothesis, Value.text?]
  simp [Value.asEntry, entryValue, Value.members?, items, toString?_ofString, outcome, Entry.joined]

theorem asSummary_summaryValue (summary : Summary) :
    (summaryValue summary).asSummary = some summary := by
  simp [Value.asSummary, summaryValue, Value.members?, counters, Value.number?]

theorem three_le_length_object (member : String × String) (members : List (String × String)) :
    3 ≤ (object (member :: members)).toList.length := by
  have isMember : 1 ≤ (memberText member).toList.length := by
    have colon : ": ".toList.length = 2 := rfl
    simp only [memberText, String.toList_append, List.length_append]
    omega
  obtain ⟨others, isAppend, _⟩ := intercalate_eq_append (memberText member).toList
    (members.map fun member => (memberText member).toList)
  rw [toList_object, List.map_cons, isAppend]
  simp only [List.length_cons, List.length_append, List.length_nil]
  omega

theorem valueOfLine?_ofString {text : String} {value : Value} (expresses : Expresses 3 text value)
    (enough : 3 ≤ text.toList.length) : valueOfLine? (.ofString text) = some value := by
  unfold valueOfLine?
  rw [toString?_ofString, Option.bind_some]
  exact decode?_of_expresses expresses enough

theorem entryOfLine?_entryObject (entry : Entry) :
    entryOfLine? (.ofString (entryObject entry)) = some entry.joined := by
  have enough : 3 ≤ (entryObject entry).toList.length := three_le_length_object _ _
  unfold entryOfLine?
  rw [valueOfLine?_ofString (expresses_entry entry) enough, Option.bind_some]
  exact asEntry_entryValue entry

/-- Quotes, line breaks and characters beyond the basic plane survive. -/
example : entryOfLine? (.ofString (entryObject ⟨.ofString "a\"\\", .changed, [.ofString "é\n😀"]⟩)) =
    some ⟨.ofString "a\"\\", .changed, [.ofString "é\n😀"]⟩ := by
  decide +kernel

theorem summaryOfLine?_summaryObject (summary : Summary) :
    summaryOfLine? (.ofString (summaryObject summary)) = some summary := by
  have enough : 3 ≤ (summaryObject summary).toList.length := three_le_length_object _ _
  unfold summaryOfLine?
  rw [valueOfLine?_ofString (expresses_summary summary) enough, Option.bind_some]
  exact asSummary_summaryValue summary

end Report.Json

end SurfaceDiff
