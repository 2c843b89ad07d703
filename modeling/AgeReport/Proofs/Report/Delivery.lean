import AgeReport.Proofs.Output.Sink
import AgeReport.Proofs.Report.Texts

/-!
# What a sink gets of a report

A report is written in many small writes and flushed at its end, and each write may be taken in
portions, be interrupted or fail. On a fair sink only three things count: how much room there is,
with which error the sink refuses bytes, and whether it can be flushed.

Results:
* `observe_writeReport`: what is seen of a report on a fair sink, as a function of its text.
* `observe_writeJson`, `observe_writeExport`: likewise for the array alone and for the export.
* `writeReport_delivery`: the bytes delivered, the flushes, and the message of every failure.
-/

namespace AgeReport

/-! ## What is seen of a computation on a sink -/

/-- What is seen of a computation on a sink: why it failed, if it did, what the sink holds, and how
often it has been flushed. -/
structure Observation where
  failure? : Option Failure
  held : Bytes
  flushes : Nat
deriving DecidableEq

namespace Sink

/-- Lets a computation work on a sink. -/
def observe (act : EStateM Failure Sink Unit) (s : Sink) : Observation :=
  match act s with
  | .ok _ s' => ⟨none, s'.held.toList, s'.flushes⟩
  | .error f s' => ⟨some f, s'.held.toList, s'.flushes⟩

variable {act : EStateM Failure Sink Unit} {s s' : Sink} {bs : Bytes}

theorem observe_of_ok {u : Unit} (h : act s = .ok u s') :
    observe act s = ⟨none, s'.held.toList, s'.flushes⟩ := by
  rw [observe, h]

theorem observe_of_error {f : Failure} (h : act s = .error f s') :
    observe act s = ⟨some f, s'.held.toList, s'.flushes⟩ := by
  rw [observe, h]

theorem Took.toList_held (h : s.Took bs s') : s'.held.toList = s.held.toList ++ bs := by
  rw [h.held]
  simp

theorem flush_of_none (h : s.rules.flushError = none) :
    (Writer.flush : EStateM IoError Sink Unit) s = .ok () { s with flushes := s.flushes + 1 } := by
  change Sink.flush s = _
  rw [Sink.flush, h]

theorem flush_of_some {e : IoError} (h : s.rules.flushError = some e) :
    (Writer.flush : EStateM IoError Sink Unit) s =
      .error e { s with flushes := s.flushes + 1 } := by
  change Sink.flush s = _
  rw [Sink.flush, h]

theorem text_exhaustion (s : Sink) : s.exhaustion.text =
    (s.rules.failure.map IoError.text).getD "failed to write whole buffer" := by
  rw [exhaustion]
  cases s.rules.failure <;> rfl

theorem fair_default : Fair {} where
  takes := by simp
  answers := by simp
  ends := by simp

end Sink

/-! ## The stages of a report -/

variable {sink : Sink}

/-- A stage that only writes, on a fair sink. -/
theorem inStage_eq_of_writes (stage : IoError → Failure) {act : EStateM IoError Sink Unit}
    {bs : Bytes} (h : Writes act bs ()) (hf : sink.Fair) :
    ∃ sink', sink.Took (sink.fitting bs) sink' ∧ inStage stage act sink =
      if sink.fits bs then .ok () sink' else .error (stage sink.exhaustion) sink' := by
  obtain ⟨sink', htook, heq⟩ := h.sink_eq hf
  refine ⟨sink', htook, ?_⟩
  cases hfits : sink.fits bs with
  | true =>
    rw [hfits] at heq
    exact inStage_of_ok heq
  | false =>
    rw [hfits] at heq
    exact inStage_of_error heq

/-- What is seen of a stage that only writes, on a fair sink. -/
theorem observe_inStage {stage : IoError → Failure} {act : EStateM IoError Sink Unit} {bs : Bytes}
    (h : Writes act bs ()) (hf : sink.Fair) :
    Sink.observe (inStage stage act) sink =
      ⟨if sink.fits bs then none else some (stage sink.exhaustion),
        sink.held.toList ++ sink.fitting bs, sink.flushes⟩ := by
  obtain ⟨sink', htook, heq⟩ := inStage_eq_of_writes stage h hf
  cases hfits : sink.fits bs with
  | true =>
    rw [hfits] at heq
    rw [Sink.observe_of_ok heq, htook.toList_held, htook.flushes]
    rfl
  | false =>
    rw [hfits] at heq
    rw [Sink.observe_of_error heq, htook.toList_held, htook.flushes]
    rfl

namespace YearSpan

/-- The failure of a report that there is no room for. It is one of the array if not even that
fits; the newline behind the array is written apart. -/
def exhaustedReport (s : YearSpan) (format : OutputFormat) (sink : Sink) : Failure :=
  if format = .json ∧ sink.fits (s.arrayText .indented 0) = false then .reportJson sink.exhaustion
  else .report sink.exhaustion

theorem writeEntries_eq (s : YearSpan) (format : OutputFormat) (hf : sink.Fair) :
    ∃ sink', sink.Took (sink.fitting (s.reportText format)) sink' ∧ s.writeEntries format sink =
      if sink.fits (s.reportText format) then .ok () sink'
      else .error (s.exhaustedReport format sink) sink' := by
  cases format with
  | text =>
    rw [exhaustedReport, if_neg (by simp)]
    exact inStage_eq_of_writes .report s.writes_writeLines hf
  | json =>
    obtain ⟨sink₁, htook, heq⟩ :=
      inStage_eq_of_writes .reportJson s.writes_serializeEntries hf
    rw [reportText, exhaustedReport]
    cases hfits : sink.fits (s.arrayText .indented 0) with
    | true =>
      -- the array is out; the newline finds the room that is left
      rw [hfits, if_pos rfl] at heq
      rw [Sink.fitting_of_fits hfits] at htook
      obtain ⟨sink₂, hrest, heq₂⟩ :=
        inStage_eq_of_writes .report (writes_put [0x0A]) (htook.fair hf)
      have hall := htook.trans hrest
      rw [htook.fitting_eq hfits] at hall
      rw [htook.fits_eq hfits, htook.exhaustion_eq] at heq₂
      rw [if_neg (by simp)]
      exact ⟨sink₂, hall, (bind_of_ok heq).trans heq₂⟩
    | false =>
      obtain ⟨hnot, hsame⟩ := Sink.fits_append_of_not_fits hfits [0x0A]
      rw [hfits] at heq
      rw [hnot, hsame, if_pos ⟨rfl, rfl⟩]
      exact ⟨sink₁, htook, bind_of_error heq⟩

/-- What is seen of a report on a fair sink. -/
theorem observe_writeReport (s : YearSpan) (format : OutputFormat) (hf : sink.Fair) :
    Sink.observe (s.writeReport format) sink =
      if sink.fits (s.reportText format) then
        ⟨sink.rules.flushError.map .report, sink.held.toList ++ s.reportText format,
          sink.flushes + 1⟩
      else
        ⟨some (s.exhaustedReport format sink),
          sink.held.toList ++ sink.fitting (s.reportText format), sink.flushes⟩ := by
  obtain ⟨sink', htook, heq⟩ := s.writeEntries_eq format hf
  cases hfits : sink.fits (s.reportText format) with
  | false =>
    rw [hfits] at heq
    have hrun : s.writeReport format sink = .error _ sink' := bind_of_error heq
    rw [Sink.observe_of_error hrun, htook.toList_held, htook.flushes]
    rfl
  | true =>
    rw [hfits] at heq
    rw [Sink.fitting_of_fits hfits] at htook
    have hrun : s.writeReport format sink = inStage .report Writer.flush sink' := bind_of_ok heq
    have hheld := htook.toList_held
    have hflushes := htook.flushes
    cases hflush : sink.rules.flushError with
    | none =>
      have hok := Sink.flush_of_none (htook.rules ▸ hflush)
      rw [Sink.observe_of_ok (hrun.trans (inStage_of_ok hok))]
      simp [hheld, hflushes]
    | some e =>
      have herror := Sink.flush_of_some (htook.rules ▸ hflush)
      rw [Sink.observe_of_error (hrun.trans (inStage_of_error herror))]
      simp [hheld, hflushes]

/-- What is seen of the array alone on a fair sink. -/
theorem observe_writeJson (s : YearSpan) (hf : sink.Fair) :
    Sink.observe s.writeJson sink =
      ⟨if sink.fits (s.arrayText .indented 0) then none else some (.reportJson sink.exhaustion),
        sink.held.toList ++ sink.fitting (s.arrayText .indented 0), sink.flushes⟩ :=
  observe_inStage s.writes_serializeEntries hf

theorem writes_writeExport {σ : Type} [Writer σ] (s : YearSpan) :
    Writes (do
      s.serializeExport.write .indented
      Writer.writeAll [0x0A] : EStateM IoError σ Unit)
      (s.exportText .indented ++ [0x0A]) () :=
  s.writes_serializeExport.bind (writes_put [0x0A])

/-- What is seen of the export document on a fair sink. -/
theorem observe_writeExport (s : YearSpan) (hf : sink.Fair) :
    Sink.observe s.writeExport sink =
      ⟨if sink.fits (s.exportText .indented ++ [0x0A]) then none
        else some (.exportJson sink.exhaustion),
        sink.held.toList ++ sink.fitting (s.exportText .indented ++ [0x0A]), sink.flushes⟩ :=
  observe_inStage s.writes_writeExport hf

/-! ## Delivery -/

/-- What the unlimited sink holds after a report. -/
theorem held_observe_writeReport (s : YearSpan) (format : OutputFormat) :
    (Sink.observe (s.writeReport format) {}).held = s.reportText format := by
  rw [observe_writeReport s format Sink.fair_default]
  rfl

theorem held_observe_writeJson (s : YearSpan) :
    (Sink.observe s.writeJson {}).held = s.arrayText .indented 0 := by
  rw [observe_writeJson s Sink.fair_default]
  rfl

theorem held_observe_writeExport (s : YearSpan) :
    (Sink.observe s.writeExport {}).held = s.exportText .indented ++ [0x0A] := by
  rw [observe_writeExport s Sink.fair_default]
  rfl

theorem fits_array_of_fits_report {s : YearSpan} (h : sink.fits (s.reportText .json) = true) :
    sink.fits (s.arrayText .indented 0) = true := by
  cases harray : sink.fits (s.arrayText .indented 0) with
  | true => rfl
  | false =>
    rw [reportText, (Sink.fits_append_of_not_fits harray [0x0A]).1] at h
    cases h

/-- The failures of a report on a fair sink, with their messages. -/
theorem exitError_of_failure {s : YearSpan} {format : OutputFormat} {f : Failure} (hf : sink.Fair)
    (h : (Sink.observe (s.writeReport format) sink).failure? = some f) :
    ∃ reason : String,
      (if sink.fits (s.reportText format) then sink.rules.flushError.map IoError.text = some reason
        else reason = (sink.rules.failure.map IoError.text).getD "failed to write whole buffer") ∧
      f.exitError = ⟨3, (if format = .json ∧ sink.fits (s.arrayText .indented 0) = false
        then "Failed to write report JSON: " else "Failed to write report: ") ++ reason⟩ := by
  rw [observe_writeReport s format hf] at h
  cases hfits : sink.fits (s.reportText format) with
  | true =>
    rw [hfits] at h
    obtain ⟨e, he, rfl⟩ := Option.map_eq_some_iff.1 h
    have harray : ¬ (format = .json ∧ sink.fits (s.arrayText .indented 0) = false) := by
      rintro ⟨rfl, hnot⟩
      rw [fits_array_of_fits_report hfits] at hnot
      cases hnot
    rw [if_neg harray]
    exact ⟨e.text, by simp [he], rfl⟩
  | false =>
    rw [hfits] at h
    cases h
    refine ⟨sink.exhaustion.text, ?_, ?_⟩
    · rw [if_neg Bool.false_ne_true, sink.text_exhaustion]
    · rw [exhaustedReport]
      split <;> rfl

/-- **A report on a fair sink.** The sink gets the beginning of the report that it has room for.
The report succeeds exactly if all of it fits and the flush succeeds, and it is flushed, once,
exactly if all of it fits. Every failure has exit code 3 and ends with the text of the error; it is
one of the array exactly if not even the array fits. How the sink divides the bytes into calls, and
which calls it interrupts, does not matter. -/
theorem writeReport_delivery (s : YearSpan) (format : OutputFormat) (hf : sink.Fair) :
    let full := (Sink.observe (s.writeReport format) {}).held
    let array := (Sink.observe s.writeJson {}).held
    let seen := Sink.observe (s.writeReport format) sink
    seen.held = sink.held.toList ++ sink.fitting full ∧
    (seen.failure? = none ↔ sink.fits full = true ∧ sink.rules.flushError = none) ∧
    seen.flushes = sink.flushes + (if sink.fits full then 1 else 0) ∧
    (∀ f, seen.failure? = some f → ∃ reason : String,
      (if sink.fits full then sink.rules.flushError.map IoError.text = some reason
        else reason = (sink.rules.failure.map IoError.text).getD "failed to write whole buffer") ∧
      f.exitError = ⟨3, (if format = .json ∧ sink.fits array = false
        then "Failed to write report JSON: " else "Failed to write report: ") ++ reason⟩ ∧
      ("Failed to write report JSON: ".toList <+: f.exitError.message.toList ↔
        format = .json ∧ sink.fits array = false) ∧
      ("Failed to write report: ".toList <+: f.exitError.message.toList ↔
        ¬ (format = .json ∧ sink.fits array = false))) ∧
    ∀ other : Sink, other.Fair → other.room = sink.room → other.held = sink.held →
      other.flushes = sink.flushes → other.rules.failure = sink.rules.failure →
      other.rules.flushError = sink.rules.flushError →
      Sink.observe (s.writeReport format) other = seen := by
  intro full array seen
  have hfull : full = s.reportText format := s.held_observe_writeReport format
  have harray : array = s.arrayText .indented 0 := s.held_observe_writeJson
  have hseen : seen = _ := s.observe_writeReport format hf
  rw [hfull, harray]
  refine ⟨?_, ?_, ?_, ?_, ?_⟩
  · rw [hseen]
    cases hfits : sink.fits (s.reportText format) with
    | true => rw [Sink.fitting_of_fits hfits, if_pos rfl]
    | false => rw [if_neg Bool.false_ne_true]
  · rw [hseen]
    cases sink.fits (s.reportText format) <;> simp
  · rw [hseen]
    cases sink.fits (s.reportText format) <;> simp
  · intro f hfailure
    obtain ⟨reason, hreason, herror⟩ := exitError_of_failure hf hfailure
    refine ⟨reason, hreason, herror, ?_⟩
    rw [herror]
    split
    · rename_i hshort
      simp [hshort, String.toList_append]
    · rename_i hlong
      simp [hlong, String.toList_append]
  · intro other hother hroom hheld hflushes hfailure hflush
    have hfits : other.fits = sink.fits := by
      funext bs
      rw [Sink.fits, Sink.fits, hroom]
    have hfitting : other.fitting = sink.fitting := by
      funext bs
      rw [Sink.fitting, Sink.fitting, hroom]
    rw [s.observe_writeReport format hother, hseen, exhaustedReport, exhaustedReport,
      Sink.exhaustion, Sink.exhaustion, hfits, hfitting, hheld, hflushes, hfailure, hflush]

/-- A sink with room for the empty array but not for the newline behind it, which takes a byte a
call and interrupts every other call. -/
theorem writeReport_delivery_newline :
    let rules : SinkRules := ⟨some 1, 2, some (.custom .other "disk full"), some .noSpace⟩
    let sink : Sink := { rules := rules, room := some 2 }
    let seen := Sink.observe (writeReport ⟨2010, 2000⟩ .json) sink
    sink.Fair ∧ seen.held = [0x5B, 0x5D] ∧ seen.flushes = 0 ∧
      ∃ f, seen.failure? = some f ∧ f.exitError = ⟨3, "Failed to write report: disk full"⟩ := by
  intro rules sink seen
  have hf : sink.Fair := by
    refine ⟨by decide, by decide, ?_⟩
    rintro e ⟨⟩
    simp [IoError.IsInterruption]
  have h := writeReport_delivery ⟨2010, 2000⟩ .json hf
  have hfull : (Sink.observe (writeReport ⟨2010, 2000⟩ .json) {}).held = [0x5B, 0x5D, 0x0A] :=
    (held_observe_writeReport ⟨2010, 2000⟩ .json).trans (by decide +kernel)
  have harray : (Sink.observe (writeJson ⟨2010, 2000⟩) {}).held = [0x5B, 0x5D] :=
    (held_observe_writeJson ⟨2010, 2000⟩).trans (by decide +kernel)
  simp only [hfull, harray] at h
  obtain ⟨hheld, hnone, hflushes, hmessage, -⟩ := h
  refine ⟨hf, hheld, hflushes, ?_⟩
  cases hfailure : seen.failure? with
  | none => exact absurd (hnone.1 hfailure).1 (by decide)
  | some f =>
    obtain ⟨reason, hreason, herror, -⟩ := hmessage f hfailure
    have hshort : sink.fits [0x5B, 0x5D, 0x0A] = false := by decide
    have harrayFits : sink.fits [0x5B, 0x5D] = true := by decide
    rw [if_neg (by simp [hshort])] at hreason
    refine ⟨f, rfl, ?_⟩
    rw [herror, hreason, if_neg (by simp [harrayFits])]
    rfl

end YearSpan
end AgeReport
