import Mathlib.Data.List.Forall2
import Mathlib.Data.Nat.Digits.Defs
import SurfaceDiff.Proofs.Report.JsonStrings

/-!
Contract: values of JSON, as they are written and as they are read.

Owns: `Expresses`, and that a reader finds in a written value what was written, whatever stands behind
it.
Does not own: what the values of a report stand for.

A number ends where no digit follows, so `Denotes` only speaks of texts behind which an array or an
object goes on or ends. All else about a reader is said there too, and the rules for arrays and objects
ask for no more of their items.
-/

namespace SurfaceDiff.Report.Json

open Text

variable {α : Type}

/-! ## What stands around a value -/

/-- Nothing follows, or what goes on or ends the array or object around. -/
def Delimited (rest : List Char) : Prop :=
  ∀ next ∈ rest.head?, next = ',' ∨ next = ']' ∨ next = '}'

/-- A text can begin a value with this character. -/
def Opens (character : Char) : Prop :=
  isBlank character = false ∧ character ≠ ']' ∧ character ≠ '}'

instance (character : Char) : Decidable (Opens character) := by
  unfold Opens
  infer_instance

/-- A reader finds this value in this text, behind any blanks and in front of any text that delimits
it. -/
structure Denotes (reader : Scanner α) (text : List Char) (value : α) : Prop where
  opens : ∃ first others, text = first :: others ∧ Opens first
  reads : ∀ blanks rest : List Char, (∀ blank ∈ blanks, isBlank blank = true) → Delimited rest →
    reader (blanks ++ (text ++ rest)) = some (value, rest)

/-- A value that is nested no deeper than `levels`. -/
def Expresses (levels : Nat) (text : String) (value : Value) : Prop :=
  ∀ depth, levels ≤ depth → Denotes (readValue depth) text.toList value

theorem Expresses.mono {levels more : Nat} {text : String} {value : Value}
    (expresses : Expresses levels text value) (atMost : levels ≤ more) :
    Expresses more text value :=
  fun depth enough => expresses depth (Nat.le_trans atMost enough)

theorem skipBlanks_append {blanks : List Char} (areBlank : ∀ blank ∈ blanks, isBlank blank = true)
    (text : List Char) : skipBlanks (blanks ++ text) = skipBlanks text :=
  List.dropWhile_append_of_pos areBlank

theorem skipBlanks_cons {character : Char} (notBlank : isBlank character = false)
    (text : List Char) : skipBlanks (character :: text) = character :: text :=
  List.dropWhile_cons_of_neg (by simp [notBlank])

theorem delimited_comma (rest : List Char) : Delimited (',' :: rest) := by
  rintro _ ⟨⟩
  exact .inl rfl

/-- The character that ends an array or an object. -/
def IsClose (character : Char) : Prop :=
  character = ']' ∨ character = '}'

theorem delimited_close {close : Char} (isClose : IsClose close) (rest : List Char) :
    Delimited (close :: rest) := by
  rintro _ ⟨⟩
  exact .inr isClose

/-! ## Numbers -/

theorem Delimited.takeWhile_isDigit {rest : List Char} (delimited : Delimited rest) :
    rest.takeWhile Char.isDigit = [] := by
  cases rest with
  | nil => rfl
  | cons next rest =>
      rcases delimited next rfl with rfl | rfl | rfl
      · rfl
      · rfl
      · rfl

theorem Delimited.dropWhile_isDigit {rest : List Char} (delimited : Delimited rest) :
    rest.dropWhile Char.isDigit = rest := by
  have whole := List.takeWhile_append_dropWhile (p := Char.isDigit) (l := rest)
  rw [delimited.takeWhile_isDigit] at whole
  exact whole

theorem Delimited.no_fraction {rest : List Char} (delimited : Delimited rest) :
    rest.head? ∉ [some '.', some 'e', some 'E'] := by
  cases rest with
  | nil => decide
  | cons next rest =>
      rcases delimited next rfl with rfl | rfl | rfl
      · simp
      · simp
      · simp

/-- The first digit of a number is zero for zero only. -/
theorem head?_toDigits {number : Nat} (positive : 0 < number) :
    (Nat.toDigits 10 number).head? ≠ some '0' := by
  induction number using Nat.strongRecOn with
  | ind number inductionHypothesis =>
      by_cases small : number < 10
      · have all : ∀ digit : Fin 10, 0 < digit.val → digit.val.digitChar ≠ '0' := by decide
        rw [Nat.toDigits_of_lt_base small]
        intro isZero
        exact all ⟨number, small⟩ positive (Option.some.inj isZero)
      · have atLeast : 10 ≤ number := Nat.not_lt.mp small
        have fewer : 0 < number / 10 := Nat.div_pos atLeast (by decide)
        rw [Nat.toDigits_of_base_le (by decide) atLeast,
          List.head?_append_of_ne_nil _ Nat.toDigits_ne_nil]
        exact inductionHypothesis (number / 10) (Nat.div_lt_self positive (by decide)) fewer

theorem readNatural_toDigits (number : Nat) {rest : List Char} (delimited : Delimited rest) :
    readNatural (Nat.toDigits 10 number ++ rest) = some (number, rest) := by
  have digits : ∀ digit ∈ Nat.toDigits 10 number, digit.isDigit = true :=
    fun _ member => Nat.isDigit_of_mem_toDigits (by decide) (by decide) member
  have taken : (Nat.toDigits 10 number ++ rest).takeWhile Char.isDigit = Nat.toDigits 10 number := by
    rw [List.takeWhile_append_of_pos digits, delimited.takeWhile_isDigit, List.append_nil]
  have left : (Nat.toDigits 10 number ++ rest).dropWhile Char.isDigit = rest := by
    rw [List.dropWhile_append_of_pos digits, delimited.dropWhile_isDigit]
  have wellFormed : ¬(Nat.toDigits 10 number = [] ∨
      (Nat.toDigits 10 number).head? = some '0' ∧ Nat.toDigits 10 number ≠ ['0']) := by
    rintro (isEmpty | ⟨isZero, notZero⟩)
    · exact Nat.toDigits_ne_nil isEmpty
    · rcases Nat.eq_zero_or_pos number with rfl | positive
      · exact notZero (Nat.toDigits_zero 10)
      · exact head?_toDigits positive isZero
  unfold readNatural
  rw [taken, left, if_neg wellFormed, if_neg delimited.no_fraction, Nat.ofDigitChars_ten_toDigits]

/-- A number can begin with this character. -/
def OpensNumber (character : Char) : Prop :=
  character = '-' ∨ character.isDigit = true

instance (character : Char) : Decidable (OpensNumber character) := by
  unfold OpensNumber
  infer_instance

theorem OpensNumber.ne {character : Char} (opens : OpensNumber character) (other : Char)
    (isOther : ¬OpensNumber other) : character ≠ other := by
  rintro rfl
  exact isOther opens

theorem OpensNumber.opens {character : Char} (opens : OpensNumber character) :
    Opens character := by
  have notBlank : isBlank character = false := by
    simp [isBlank, opens.ne ' ' (by decide), opens.ne '\t' (by decide), opens.ne '\n' (by decide),
      opens.ne '\r' (by decide)]
  exact ⟨notBlank, opens.ne _ (by decide), opens.ne _ (by decide)⟩

/-- A text that opens as a number does is read as one. -/
theorem readValue_number {first : Char} (opens : OpensNumber first) (depth : Nat)
    (text : List Char) {blanks : List Char} (areBlank : ∀ blank ∈ blanks, isBlank blank = true) :
    readValue (depth + 1) (blanks ++ first :: text) =
      (readNumber (first :: text)).map fun (number, rest) => (.number number, rest) := by
  have notQuote : first ≠ '"' := opens.ne _ (by decide)
  have notBracket : first ≠ '[' := opens.ne _ (by decide)
  have notBrace : first ≠ '{' := opens.ne _ (by decide)
  have notNull : first ≠ 'n' := opens.ne _ (by decide)
  have notTrue : first ≠ 't' := opens.ne _ (by decide)
  have notFalse : first ≠ 'f' := opens.ne _ (by decide)
  simp [readValue, skipBlanks_append areBlank, skipBlanks_cons opens.opens.1, notQuote, notBracket,
    notBrace, notNull, notTrue, notFalse]

theorem toDigits_eq_cons (number : Nat) :
    ∃ first others, Nat.toDigits 10 number = first :: others ∧ first.isDigit = true := by
  obtain ⟨first, others, isCons⟩ :=
    List.exists_cons_of_ne_nil (Nat.toDigits_ne_nil (n := number) (b := 10))
  have member : first ∈ Nat.toDigits 10 number := isCons ▸ List.mem_cons_self
  exact ⟨first, others, isCons, Nat.isDigit_of_mem_toDigits (by decide) (by decide) member⟩

/-- A number as it is written, and what a reader finds in it. -/
theorem toList_toString_int (number : Int) :
    ∃ first others, (toString number).toList = first :: others ∧ OpensNumber first ∧
      ∀ rest, Delimited rest → readNumber (first :: (others ++ rest)) = some (number, rest) := by
  have text : toString number = number.repr := rfl
  rw [text, Int.repr_eq_if]
  split
  case isTrue nonnegative =>
    obtain ⟨first, others, isCons, isDigit⟩ := toDigits_eq_cons number.toNat
    have notMinus : first ≠ '-' := by
      rintro rfl
      cases isDigit
    rw [Nat.toList_repr]
    refine ⟨first, others, isCons, .inr isDigit, fun rest delimited => ?_⟩
    have read := readNatural_toDigits number.toNat delimited
    rw [isCons, List.cons_append] at read
    simp [readNumber, notMinus, read, nonnegative]
  case isFalse negative =>
    rw [String.toList_append, Nat.toList_repr]
    refine ⟨'-', Nat.toDigits 10 (-number).toNat, rfl, .inl rfl, fun rest delimited => ?_⟩
    have value : -(((-number).toNat : Nat) : Int) = number := by
      omega
    simp only [readNumber, readNatural_toDigits (-number).toNat delimited, Option.map_some, value]

theorem expresses_number (number : Int) : Expresses 1 (toString number) (.number number) := by
  intro depth enough
  obtain ⟨depth, rfl⟩ := Nat.exists_eq_add_of_le' enough
  obtain ⟨first, others, isText, opens, reads⟩ := toList_toString_int number
  rw [isText]
  refine ⟨⟨first, others, rfl, opens.opens⟩, fun blanks rest areBlank delimited => ?_⟩
  rw [List.cons_append, readValue_number opens depth _ areBlank, reads rest delimited]
  rfl

/-! ## Strings -/

theorem expresses_text (points : CodePoints) :
    Expresses 1 (text points) (.string (CodePoints.joinPairs points)) := by
  intro depth enough
  obtain ⟨depth, rfl⟩ := Nat.exists_eq_add_of_le' enough
  unfold text
  rw [String.toList_ofList]
  refine ⟨⟨'"', _, rfl, by decide⟩, fun blanks rest areBlank _ => ?_⟩
  have notBlank : isBlank '"' = false := rfl
  have read := readString_flatMap_escape points rest
  simp [readValue, skipBlanks_append areBlank, skipBlanks_cons notBlank, read]

theorem expresses_string (value : String) :
    Expresses 1 (string value) (.string (.ofString value)) := by
  have same := CodePoints.joinPairs_of_surrogateFree (CodePoints.surrogateFree_ofString value)
  have expresses := expresses_text (.ofString value)
  rw [same] at expresses
  exact expresses

/-! ## Arrays and objects -/

section Lists

variable {item : Scanner α} {close : Char} {texts : List (List Char)} {values : List α}

/-- What stands between two items. -/
def separator : List Char := [',', ' ']

theorem intercalate_eq_append (text : List Char) (texts : List (List Char)) :
    ∃ others, separator.intercalate (text :: texts) = text ++ others ∧
      texts.length ≤ others.length := by
  induction texts generalizing text with
  | nil => exact ⟨[], by simp⟩
  | cons next texts inductionHypothesis =>
      obtain ⟨others, isAppend, enough⟩ := inductionHypothesis next
      refine ⟨separator ++ separator.intercalate (next :: texts), ?_, ?_⟩
      · rw [List.intercalate_cons_cons, List.append_assoc]
      · rw [isAppend, List.length_append, List.length_append, List.length_cons]
        simp only [separator, List.length_cons, List.length_nil]
        omega

/-- Items with separators between them are read up to the closing character. -/
theorem readItems_append (isClose : IsClose close)
    (items : List.Forall₂ (Denotes item) texts values) (nonempty : texts ≠ []) {limit : Nat}
    (enough : texts.length ≤ limit) (blanks rest : List Char)
    (areBlank : ∀ blank ∈ blanks, isBlank blank = true) :
    readItems item close limit (blanks ++ (separator.intercalate texts ++ close :: rest)) =
      some (values, rest) := by
  induction items generalizing limit blanks with
  | nil => exact absurd rfl nonempty
  | @cons text value texts values first others inductionHypothesis =>
      obtain ⟨limit, rfl⟩ := Nat.exists_eq_add_of_le' (Nat.le_trans (Nat.le_add_left 1 _) enough)
      cases others with
      | nil =>
          have read := first.reads blanks (close :: rest) areBlank (delimited_close isClose rest)
          rw [List.intercalate_singleton, readItems, read]
          rcases isClose with rfl | rfl
          · rfl
          · rfl
      | @cons next nextValue texts values _ _ =>
          let behind := [' '] ++ (separator.intercalate (next :: texts) ++ close :: rest)
          have isAppend : separator.intercalate (text :: next :: texts) ++ close :: rest =
              text ++ ',' :: behind := by
            simp [List.intercalate_cons_cons, separator, behind]
          have read := first.reads blanks (',' :: behind) areBlank (delimited_comma behind)
          have notBlank : isBlank ',' = false := rfl
          have others : readItems item close limit behind = some (nextValue :: values, rest) :=
            inductionHypothesis (List.cons_ne_nil _ _) (Nat.le_of_succ_le_succ enough) [' ']
              (by simp [isBlank])
          rw [isAppend, readItems, read]
          simp [skipBlanks_cons notBlank, others]

/-- A whole list is read up to the closing character, also if it is empty. -/
theorem readList_append (isClose : IsClose close)
    (items : List.Forall₂ (Denotes item) texts values) (rest : List Char) :
    readList item close (separator.intercalate texts ++ close :: rest) = some (values, rest) := by
  cases items with
  | nil =>
      have notBlank : isBlank close = false := by
        rcases isClose with rfl | rfl
        · rfl
        · rfl
      simp [readList, skipBlanks_cons notBlank]
  | @cons text value texts values first others =>
      obtain ⟨opening, more, rfl, notBlank, notBracket, notBrace⟩ := first.opens
      obtain ⟨behind, isAppend, enough⟩ := intercalate_eq_append (opening :: more) texts
      have notClose : opening ≠ close := by
        rcases isClose with rfl | rfl
        · exact notBracket
        · exact notBrace
      have within : ((opening :: more) :: texts).length ≤
          (more ++ behind ++ close :: rest).length + 1 := by
        simp only [List.length_append, List.length_cons]
        omega
      have read := readItems_append isClose (.cons first others) (List.cons_ne_nil _ _) within []
        rest nofun
      rw [List.nil_append, isAppend] at read
      rw [isAppend]
      simpa [readList, skipBlanks_cons notBlank, notClose] using read

end Lists

theorem expresses_array {levels : Nat} {texts : List String} {values : List Value}
    (items : List.Forall₂ (Expresses levels) texts values) :
    Expresses (levels + 1) (array texts) (.array values) := by
  intro depth enough
  obtain ⟨depth, rfl⟩ := Nat.exists_eq_add_of_le' (Nat.le_trans (Nat.le_add_left 1 _) enough)
  have atDepth : List.Forall₂ (Denotes (readValue depth)) (texts.map String.toList) values := by
    rw [List.forall₂_map_left_iff]
    exact items.imp fun _ _ expresses => expresses depth (Nat.le_of_succ_le_succ enough)
  have isText : (array texts).toList =
      '[' :: (separator.intercalate (texts.map String.toList) ++ [']']) := by
    simp [array, separator, String.toList_intercalate]
  rw [isText]
  refine ⟨⟨'[', _, rfl, by decide⟩, fun blanks rest areBlank _ => ?_⟩
  have notBlank : isBlank '[' = false := rfl
  have read := readList_append (.inl rfl) atDepth rest
  simp [readValue, skipBlanks_append areBlank, skipBlanks_cons notBlank, read]

/-- A member as it is written: its name, a colon and its value. -/
def memberText (member : String × String) : String :=
  string member.1 ++ ": " ++ member.2

theorem denotes_member {depth : Nat} (name : String) {text : String} {value : Value}
    (denotes : Denotes (readValue depth) text.toList value) :
    Denotes (readMember (readValue depth)) (memberText (name, text)).toList
      (.ofString name, value) := by
  have isText : (memberText (name, text)).toList =
      '"' :: ((CodePoints.ofString name).flatMap escape ++ '"' :: ':' :: ' ' :: text.toList) := by
    simp [memberText, string, Json.text]
  rw [isText]
  refine ⟨⟨'"', _, rfl, by decide⟩, fun blanks rest areBlank delimited => ?_⟩
  have notBlank : isBlank '"' = false := rfl
  have colonNotBlank : isBlank ':' = false := rfl
  have isName := readString_flatMap_escape (.ofString name) (':' :: ' ' :: (text.toList ++ rest))
  have isValue := denotes.reads [' '] rest (by simp [isBlank]) delimited
  have same := CodePoints.joinPairs_of_surrogateFree (CodePoints.surrogateFree_ofString name)
  rw [same] at isName
  rw [List.singleton_append] at isValue
  simp [readMember, skipBlanks_append areBlank, skipBlanks_cons notBlank, isName,
    skipBlanks_cons colonNotBlank, isValue]

theorem toList_object (members : List (String × String)) :
    (object members).toList =
      '{' :: (separator.intercalate (members.map fun member => (memberText member).toList) ++
        ['}']) := by
  simp [object, memberText, separator, String.toList_intercalate, Function.comp_def]

theorem expresses_object {levels : Nat} {members : List (String × String)}
    {values : List (CodePoints × Value)}
    (named : List.Forall₂ (fun member value => value.1 = .ofString member.1 ∧
      Expresses levels member.2 value.2) members values) :
    Expresses (levels + 1) (object members) (.object values) := by
  intro depth enough
  obtain ⟨depth, rfl⟩ := Nat.exists_eq_add_of_le' (Nat.le_trans (Nat.le_add_left 1 _) enough)
  have atDepth : List.Forall₂ (Denotes (readMember (readValue depth)))
      (members.map fun member => (memberText member).toList) values := by
    rw [List.forall₂_map_left_iff]
    refine named.imp fun member value isMember => ?_
    obtain ⟨name, text⟩ := member
    obtain ⟨_, value⟩ := value
    obtain ⟨rfl, expresses⟩ := isMember
    exact denotes_member name (expresses depth (Nat.le_of_succ_le_succ enough))
  rw [toList_object]
  refine ⟨⟨'{', _, rfl, by decide⟩, fun blanks rest areBlank _ => ?_⟩
  have notBlank : isBlank '{' = false := rfl
  have read := readList_append (.inr rfl) atDepth rest
  simp [readValue, skipBlanks_append areBlank, skipBlanks_cons notBlank, read]

/-- A value that is written is the value of the whole text. -/
theorem decode?_of_expresses {levels : Nat} {text : String} {value : Value}
    (expresses : Expresses levels text value) (enough : levels ≤ text.toList.length) :
    decode? text.toList = some value := by
  have read := (expresses text.toList.length enough).reads [] [] nofun nofun
  rw [List.nil_append, List.append_nil] at read
  simp [decode?, read, skipBlanks]

end SurfaceDiff.Report.Json
