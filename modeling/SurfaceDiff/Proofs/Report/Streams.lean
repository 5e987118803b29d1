import SurfaceDiff.Proofs.Report.JsonLines

/-!
Contract: reports in JSON that are written while a comparison goes on, next to the collected entries.

Owns: `Streams`, for a sink that only writes; and `ReadsAs`, what a reader of lines finds in a report.
Does not own: how an entry is rendered.

A sink that writes neither changes the counters nor loses an entry, so its text is the renderings of
the collected entries, one behind the other.
-/

namespace SurfaceDiff

open Text

namespace Comparison

/-- The comparison that keeps all entries. -/
def collect (detectChanges : Bool) (left right : Surface) : Run Collected :=
  Surface.compare ⟨Collected.sink, detectChanges⟩ {} left right

theorem entries_collect (detectChanges : Bool) (left right : Surface) :
    (collect detectChanges left right).state.entries.toList =
      (findings detectChanges left right).map Finding.entry := by
  unfold collect
  rw [Collected.entries_compare]
  rfl

/-- A comparison with this sink counts what the collecting one counts, and writes the rendering of
each entry that the latter keeps, in their order and behind what was written before. -/
structure Streams (sink : Sink Written) (render : Entry → CodePoints) (detectChanges : Bool)
    (left right : Surface) : Prop where
  summary : ∀ written, (Surface.compare ⟨sink, detectChanges⟩ written left right).summary =
    (collect detectChanges left right).summary
  text : ∀ written, (Surface.compare ⟨sink, detectChanges⟩ written left right).state.toList =
    written.toList ++ (collect detectChanges left right).state.entries.toList.flatMap render

theorem toList_reported {sink : Sink Written} {render : Entry → CodePoints}
    (appends : ∀ written entry, (sink.report written entry).toList = written.toList ++ render entry)
    (written : Written) (found : List Finding) :
    (reported sink written found).toList =
      written.toList ++ (found.map Finding.entry).flatMap render := by
  unfold reported
  induction found generalizing written with
  | nil => simp
  | cons finding rest inductionHypothesis =>
      rw [List.foldl_cons, inductionHypothesis, appends, List.map_cons, List.flatMap_cons,
        List.append_assoc]

theorem streams_of_appends {sink : Sink Written} {render : Entry → CodePoints}
    (appends : ∀ written entry, (sink.report written entry).toList = written.toList ++ render entry)
    (detectChanges : Bool) (left right : Surface) :
    Streams sink render detectChanges left right where
  summary := by
    intro written
    unfold collect
    rw [summary_compare, summary_compare]
  text := by
    intro written
    rw [state_compare, entries_collect]
    exact toList_reported appends written _

theorem streams_json (detectChanges : Bool) (left right : Surface) :
    Streams Report.Json.sink (fun entry => .ofString (Report.Json.entryLine entry)) detectChanges
      left right := by
  apply streams_of_appends
  intro written entry
  exact Array.toList_appendList

end Comparison

namespace Report.Json

/-! ## Lines of a text -/

def lineBreak : CodePoint := .ofChar '\n'

/-- Lines that end with a line break each, and hold no other, are what a text splits into; behind the
last one nothing is left. -/
theorem splitOn_lines {lines : List CodePoints} (noBreak : ∀ line ∈ lines, lineBreak ∉ line) :
    (lines.flatMap (· ++ [lineBreak])).splitOn lineBreak = lines ++ [[]] := by
  have joined : lines.flatMap (· ++ [lineBreak]) = [lineBreak].intercalate (lines ++ [[]]) := by
    clear noBreak
    induction lines with
    | nil => rfl
    | cons line lines inductionHypothesis =>
        rw [List.flatMap_cons, inductionHypothesis, List.cons_append,
          List.intercalate_cons_of_ne_nil (by simp)]
  have withLast : ∀ line ∈ lines ++ [[]], lineBreak ∉ line := by
    intro line member
    rcases List.mem_append.mp member with inLines | isLast
    · exact noBreak line inLines
    · rw [List.mem_singleton] at isLast
      simp [isLast]
  rw [joined]
  exact List.splitOn_intercalate lineBreak withLast (by simp)

theorem value_of_mem_plain {text : String} (isPlain : PlainText text) {point : CodePoint}
    (member : point ∈ CodePoints.ofString text) : 0x20 ≤ point.value ∧ point.value ≤ 0x7E := by
  obtain ⟨character, inText, rfl⟩ := List.mem_map.mp member
  exact isPlain character inText

/-- The text has one line for each entry, which says what the entry is, and then one with the
counters, which are those of the entries. All of it but the line breaks is printable ASCII. -/
structure ReadsAs (written : CodePoints) (entries : List Entry) (summary : Summary) : Prop where
  lines : ∃ lines last, written.splitOn lineBreak = lines ++ [last, []] ∧
    lines.map entryOfLine? = entries.map some ∧ summaryOfLine? last = some summary
  plain : ∀ line ∈ written.splitOn lineBreak, ∀ point ∈ line, 0x20 ≤ point.value ∧ point.value ≤ 0x7E
  tallies : summary.Tallies entries

/-- The lines of the entries and the line of the counters. -/
def written (entries : List Entry) (summary : Summary) : CodePoints :=
  (entries.flatMap fun entry => CodePoints.ofString (entryLine entry)) ++
    CodePoints.ofString (summaryLine summary)

/-- The lines without their line breaks. -/
def lineTexts (entries : List Entry) (summary : Summary) : List String :=
  entries.map entryObject ++ [summaryObject summary]

theorem plain_of_mem_lineTexts {entries : List Entry} {summary : Summary} {line : CodePoints}
    (isLine : line ∈ (lineTexts entries summary).map CodePoints.ofString) :
    ∀ point ∈ line, 0x20 ≤ point.value ∧ point.value ≤ 0x7E := by
  obtain ⟨text, isText, rfl⟩ := List.mem_map.mp isLine
  intro point
  apply value_of_mem_plain
  rcases List.mem_append.mp isText with isEntry | isSummary
  · obtain ⟨entry, _, rfl⟩ := List.mem_map.mp isEntry
    exact plainText_entryObject entry
  · rw [List.mem_singleton.mp isSummary]
    exact plainText_summaryObject summary

theorem written_eq_lines (entries : List Entry) (summary : Summary) :
    written entries summary =
      ((lineTexts entries summary).map CodePoints.ofString).flatMap (· ++ [lineBreak]) := by
  have line (text : String) :
      CodePoints.ofString (text ++ "\n") = .ofString text ++ [lineBreak] := by
    simp [CodePoints.ofString, lineBreak]
  simp [written, lineTexts, entryLine_eq, summaryLine_eq, line, List.flatMap_map]

/-- No line break stands in a line, so the text splits where its lines end. -/
theorem splitOn_written (entries : List Entry) (summary : Summary) :
    (written entries summary).splitOn lineBreak =
      (lineTexts entries summary).map CodePoints.ofString ++ [[]] := by
  rw [written_eq_lines]
  apply splitOn_lines
  intro line isLine isPoint
  have isPlain := plain_of_mem_lineTexts isLine lineBreak isPoint
  exact absurd isPlain (by decide)

theorem itemCount_joined (outcome : Outcome) (entries : List Entry) :
    itemCount outcome (entries.map Entry.joined) = itemCount outcome entries := by
  induction entries with
  | nil => rfl
  | cons entry entries inductionHypothesis =>
      have first : itemCount outcome [entry.joined] = itemCount outcome [entry] := by
        rw [itemCount_singleton, itemCount_singleton]
        simp [Entry.joined]
      change itemCount outcome ([entry.joined] ++ entries.map Entry.joined) =
        itemCount outcome ([entry] ++ entries)
      rw [itemCount_append, itemCount_append, first, inductionHypothesis]

theorem tallies_joined {entries : List Entry} {summary : Summary}
    (tallies : summary.Tallies entries) : summary.Tallies (entries.map Entry.joined) where
  entries := by rw [tallies.entries, List.length_map]
  added := by rw [tallies.added, itemCount_joined]
  removed := by rw [tallies.removed, itemCount_joined]
  changed := by rw [tallies.changed, itemCount_joined]
  differs_iff_entries := by
    rw [tallies.differs_iff_entries, Ne, Ne, List.map_eq_nil_iff]
  differs_iff_items := tallies.differs_iff_items

/-- **A report in JSON can be read back.** Line by line, it says what was reported. -/
theorem readsAs_written {entries : List Entry} {summary : Summary}
    (tallies : summary.Tallies entries) :
    ReadsAs (written entries summary) (entries.map Entry.joined) summary where
  lines := by
    refine ⟨(entries.map entryObject).map CodePoints.ofString,
      CodePoints.ofString (summaryObject summary), ?_, ?_, summaryOfLine?_summaryObject summary⟩
    · rw [splitOn_written]
      simp [lineTexts]
    · simp only [List.map_map, List.map_inj_left, Function.comp_apply]
      intro entry _
      exact entryOfLine?_entryObject entry
  plain := by
    rw [splitOn_written]
    intro line isLine
    rcases List.mem_append.mp isLine with inTexts | isLast
    · exact plain_of_mem_lineTexts inTexts
    · rw [List.mem_singleton.mp isLast]
      exact nofun
  tallies := tallies_joined tallies

end Report.Json

end SurfaceDiff
