import AgeReport.Proofs.Json.CutShort
import AgeReport.Proofs.Json.ReadBack
import AgeReport.Proofs.Report.Delivery

/-!
# Reading the outputs back

The JSON texts of the library, in any layout and at any depth, are read back by its own readers as
the entries or the span that they were written for. The reader of a span skips the name of the tool
and the entries; it stops behind the closing bracket, so no export is the beginning of another, and a
text without its end is not read at all.

Results:
* `readEntry_objectText`, `readEntries_arrayText`, `readSpan_exportText`: the texts, in front of
  anything.
* `decode_report`: the report as JSON, and its agreement with the report as lines.
* `decode_export`: the export, and that no export begins another.
* `decode_cut`: the outputs that were cut short.
-/

namespace AgeReport

open Json

variable {l : Layout} {d : Nat}

/-! ## Entries -/

theorem sound_entry : RecordType.entry.Sound :=
  ⟨by decide, narrow_year, narrow_age⟩

theorem takes_year (y : Int32) : IntegerType.year.Takes (Decimal.bytes y.toInt) y.toInt :=
  ⟨integerText_bytes y.toInt, Numeral.contains_toInt y⟩

theorem takes_age (n : Int64) : IntegerType.age.Takes (Decimal.bytes n.toInt) n.toInt :=
  ⟨integerText_bytes n.toInt, Numeral.contains_toInt64 n⟩

/-- The members of an entry. -/
def AgeEntry.plainMembers (e : AgeEntry) : List PlainMember :=
  [⟨"year", _, by decide, wellFormed_bytes e.year.toInt⟩,
    ⟨"age", _, by decide, wellFormed_bytes e.age.toInt⟩]

theorem readEntry_objectText (e : AgeEntry) (rest : Bytes) :
    readEntry (e.objectText l d ++ rest) = .ok (e, rest) := by
  have hread : readRecord .entry (e.objectText l d ++ rest) = _ :=
    readRecord_group sound_entry e.plainMembers rfl (takes_year e.year) rfl (takes_age e.age) rest
  rw [readEntry, hread]
  change Except.ok ((⟨Int32.ofInt e.year.toInt, Int64.ofInt e.age.toInt⟩ : AgeEntry), rest) = _
  rw [Int32.ofInt_toInt, Int64.ofInt_toInt]

theorem readsEntry_objectText (e : AgeEntry) : ReadsEntry (e.objectText l d) e :=
  ⟨begun_group l .object d _, readEntry_objectText e⟩

theorem wellFormed_objectText (e : AgeEntry) : WellFormed .value (e.objectText l d) :=
  wellFormed_object l d e.plainMembers

namespace YearSpan

theorem readEntries_arrayText (s : YearSpan) (rest : Bytes) :
    readEntries (s.arrayText l d ++ rest) = .ok (s.entries, rest) :=
  readEntries_group (fun e _ => readsEntry_objectText e) rest

theorem wellFormed_arrayText (s : YearSpan) : WellFormed .value (s.arrayText l d) := by
  refine wellFormed_list fun v hv => ?_
  obtain ⟨e, -, rfl⟩ := List.mem_map.1 hv
  exact wellFormed_objectText e

/-! ## Spans -/

/-- The members for the bounds. -/
def plainMembers (s : YearSpan) : List PlainMember :=
  [⟨"birth_year", _, by decide, wellFormed_bytes s.birthYear.toInt⟩,
    ⟨"current_year", _, by decide, wellFormed_bytes s.currentYear.toInt⟩]

/-- The members of the export. -/
def exportMembers (l : Layout) (s : YearSpan) : List PlainMember :=
  ⟨"tool", quoted toolName, by decide, wellFormed_quoted (by decide)⟩ :: s.plainMembers ++
    [⟨"entries", s.arrayText l 1, by decide, s.wellFormed_arrayText⟩]

theorem readSpan_exportText (s : YearSpan) (rest : Bytes) :
    readSpan (s.exportText l ++ rest) = .ok (s, rest) := by
  have hread : readRecord .span (s.exportText l ++ rest) = _ :=
    readRecord_group sound_span (s.exportMembers l) rfl (takes_year s.birthYear) rfl
      (takes_year s.currentYear) rest
  rw [readSpan, hread]
  change Except.ok
    ((⟨Int32.ofInt s.birthYear.toInt, Int32.ofInt s.currentYear.toInt⟩ : YearSpan), rest) = _
  rw [Int32.ofInt_toInt, Int32.ofInt_toInt]

theorem exportJson_eq (s : YearSpan) (l : Layout) : s.exportJson l = s.exportText l :=
  s.placed_serializeExport.toBytes

/-- If the text of an export begins another one, the spans are the same. -/
theorem eq_of_exportText_prefix {s t : YearSpan} {bs cs : Bytes}
    (h : s.exportText l ++ bs <+: t.exportText l ++ cs) : s = t := by
  obtain ⟨rest, hrest⟩ := h
  -- both spans are what the reader finds at the beginning of the longer text
  have hs := s.readSpan_exportText (l := l) (bs ++ rest)
  rw [← List.append_assoc, hrest, readSpan_exportText t] at hs
  cases hs
  rfl

/-! ## The outputs -/

theorem blank_lineEnd : Blank [0x0A] := by
  simp [Blank, isSpace]

/-- **The report is read back.** A report as JSON, and the array alone, come out complete on an
unlimited sink, and both are decoded as the entries of the span; the lines of what is decoded are
the report as lines. -/
theorem decode_report (s : YearSpan) :
    let json := Sink.observe (s.writeReport .json) {}
    let array := Sink.observe s.writeJson {}
    let lines := Sink.observe (s.writeReport .text) {}
    json.failure? = none ∧ array.failure? = none ∧ lines.failure? = none ∧
      ∃ es, decodeEntries json.held = .ok es ∧ decodeEntries array.held = .ok es ∧
        es = s.entries ∧ es.flatMap (fun e => e.line ++ [0x0A]) = lines.held := by
  intro json array lines
  have hjson : json = _ := s.observe_writeReport .json Sink.fair_default
  have harray : array = _ := s.observe_writeJson Sink.fair_default
  have hlines : lines = _ := s.observe_writeReport .text Sink.fair_default
  refine ⟨?_, ?_, ?_, s.entries, ?_, ?_, rfl, ?_⟩
  · rw [hjson]
    rfl
  · rw [harray]
    rfl
  · rw [hlines]
    rfl
  · rw [show json.held = _ from s.held_observe_writeReport .json]
    exact readAll_eq (s.readEntries_arrayText [0x0A]) blank_lineEnd
  · have hread := s.readEntries_arrayText (l := .indented) (d := 0) []
    rw [List.append_nil] at hread
    rw [show array.held = _ from s.held_observe_writeJson]
    exact readAll_eq hread blank_nil
  · exact (s.held_observe_writeReport .text).symm

/-- **The export is read back.** On an unlimited sink the export comes out complete, and it is
decoded as its span, as it is without any spaces and lines. An export that begins another one is
that one. -/
theorem decode_export (s t : YearSpan) :
    let document (s : YearSpan) := Sink.observe s.writeExport {}
    (document s).failure? = none ∧ decodeSpan (document s).held = .ok s ∧
      decodeSpan (s.exportJson .compact) = .ok s ∧
      ((document s).held <+: (document t).held → s = t) := by
  intro document
  have hheld : ∀ s, (document s).held = s.exportText .indented ++ [0x0A] :=
    held_observe_writeExport
  refine ⟨?_, ?_, ?_, ?_⟩
  · rw [show document s = _ from s.observe_writeExport Sink.fair_default]
    rfl
  · rw [hheld]
    exact readAll_eq (s.readSpan_exportText [0x0A]) blank_lineEnd
  · have hread := s.readSpan_exportText (l := .compact) []
    rw [List.append_nil] at hread
    rw [exportJson_eq]
    exact readAll_eq hread blank_nil
  · intro hprefix
    rw [hheld, hheld] at hprefix
    exact eq_of_exportText_prefix hprefix

/-- The end of one span begins the end of the other. -/
theorem decode_export_digits :
    let document (s : YearSpan) := Sink.observe s.writeExport {}
    ¬ (document ⟨2000, 2⟩).held <+: (document ⟨2000, 20⟩).held := by
  intro document hprefix
  obtain ⟨-, -, -, hfree⟩ := decode_export ⟨2000, 2⟩ ⟨2000, 20⟩
  exact absurd (hfree hprefix) (by decide)

/-! ## Outputs that were cut short -/

theorem decodeEntries_of_cut (s : YearSpan) {part : Bytes}
    (hpart : part <+: s.arrayText .indented 0) (hne : part ≠ s.arrayText .indented 0) :
    ∃ f, decodeEntries part = .error f := by
  have hread := s.readEntries_arrayText (l := .indented) (d := 0) []
  rw [List.append_nil] at hread
  exact readAll_of_cut (fun bs _ => carries_readEntries bs) hread hpart hne

theorem decodeSpan_of_cut (s : YearSpan) {part : Bytes} (hpart : part <+: s.exportText .indented)
    (hne : part ≠ s.exportText .indented) : ∃ f, decodeSpan part = .error f := by
  have hread := s.readSpan_exportText (l := .indented) []
  rw [List.append_nil] at hread
  exact readAll_of_cut (fun bs _ => carries_readSpan bs) hread hpart hne

/-- **An output that was cut short is never taken for a complete one.** No beginning of the array is
decoded as a list of entries, so neither is what a sink holds after the array failed; no beginning
of the export document, the newline at its end apart, is decoded as a span. -/
theorem decode_cut (s : YearSpan) :
    let array := (Sink.observe s.writeJson {}).held
    let document := (Sink.observe s.writeExport {}).held
    (∀ part, part <+: array → part ≠ array → ∃ f, decodeEntries part = .error f) ∧
    (∃ body, document = body ++ [0x0A] ∧
      ∀ part, part <+: body → part ≠ body → ∃ f, decodeSpan part = .error f) ∧
    ∀ sink : Sink, sink.Fair → sink.held = #[] →
      (Sink.observe s.writeJson sink).failure? ≠ none →
      ∃ f, decodeEntries (Sink.observe s.writeJson sink).held = .error f := by
  intro array document
  have harray : array = s.arrayText .indented 0 := s.held_observe_writeJson
  have hdocument : document = s.exportText .indented ++ [0x0A] := s.held_observe_writeExport
  rw [harray]
  refine ⟨fun part => s.decodeEntries_of_cut, ?_, ?_⟩
  · exact ⟨s.exportText .indented, hdocument, fun part => s.decodeSpan_of_cut⟩
  · intro sink hf hempty hfailure
    rw [s.observe_writeJson hf] at hfailure ⊢
    rw [hempty]
    cases hfits : sink.fits (s.arrayText .indented 0) with
    | true => simp [hfits] at hfailure
    | false =>
      exact s.decodeEntries_of_cut (sink.fitting_prefix _) (Sink.fitting_ne_of_not_fits hfits)

/-- Cuts between the digits of a year, of which those that are left are a year as well, and a sink
that has room for no more than that. -/
theorem decode_cut_digits :
    let array := (Sink.observe (writeJson ⟨2005, 2006⟩) {}).held
    let part := Text.bytes "[\n  \x7b\n    \"year\": 20"
    let document := (Sink.observe (writeExport ⟨-30, 2006⟩) {}).held
    let start := Text.bytes "\x7b\n  \"tool\": \"ages\",\n  \"birth_year\": -3"
    let sink : Sink := { room := some part.length }
    let seen := Sink.observe (writeJson ⟨2005, 2006⟩) sink
    part <+: array ∧ part ≠ array ∧ (∃ f, decodeEntries part = .error f) ∧
      start <+: document ∧ (∃ f, decodeSpan start = .error f) ∧
      sink.Fair ∧ seen.failure? ≠ none ∧ ∃ f, decodeEntries seen.held = .error f := by
  intro array part document start sink seen
  obtain ⟨hparts, -, hseen⟩ := decode_cut ⟨2005, 2006⟩
  obtain ⟨-, ⟨body, hbody, hstarts⟩, -⟩ := decode_cut ⟨-30, 2006⟩
  have harray : array = _ := held_observe_writeJson ⟨2005, 2006⟩
  have hf : sink.Fair := ⟨by decide, by decide, by rintro e ⟨⟩⟩
  have hpart : part <+: array := by
    rw [harray]
    decide +kernel
  have hne : part ≠ array := by
    rw [harray]
    decide +kernel
  have hfailure : seen.failure? ≠ none := by
    rw [show seen = _ from observe_writeJson ⟨2005, 2006⟩ hf]
    decide +kernel
  have hstart : start <+: body ∧ start ≠ body := by
    rw [held_observe_writeExport] at hbody
    rw [← List.append_cancel_right hbody]
    decide +kernel
  refine ⟨hpart, hne, hparts part hpart hne, ?_, hstarts start hstart.1 hstart.2, hf, hfailure,
    hseen sink hf rfl hfailure⟩
  rw [show document = _ from hbody]
  exact hstart.1.trans (List.prefix_append _ _)

end YearSpan
end AgeReport
