import AgeReport.Proofs.Report.Delivery

/-!
# What a sink gets of an output that is never flushed

The export document and the array alone are written and left to whoever owns the writer. They come
through exactly if there is room for them, whether the sink can be flushed or not; the same error of
the sink is told in the words, and with the exit code, of the output that it stopped.

Results:
* `unflushed_inStage`: any stage that only writes.
* `writeExport_writeJson_unflushed`: the export and the array.
-/

namespace AgeReport

/-- What a sink gets of an output that it is never asked to flush, where `code` and `opening` are
the exit code and the first words of its failures. -/
structure Unflushed (output : EStateM Failure Sink Unit) (code : UInt8) (opening : String)
    (sink : Sink) : Prop where
  /-- The sink gets the beginning that it has room for. -/
  held : (Sink.observe output sink).held =
    sink.held.toList ++ sink.fitting (Sink.observe output {}).held
  /-- The output comes through exactly if there is room for all of it. -/
  succeeds : (Sink.observe output sink).failure? = none ↔
    sink.fits (Sink.observe output {}).held = true
  /-- There is no flush. -/
  flushes : (Sink.observe output sink).flushes = sink.flushes
  /-- Every failure has the exit code, and the first words before the text of the error. -/
  told : ∀ f, (Sink.observe output sink).failure? = some f → f.exitError = ⟨code,
    opening ++ (sink.rules.failure.map IoError.text).getD "failed to write whole buffer"⟩
  /-- Portions, interruptions and the error of a flush do not matter. -/
  alike : ∀ other : Sink, other.Fair → other.room = sink.room → other.held = sink.held →
    other.flushes = sink.flushes → other.rules.failure = sink.rules.failure →
    Sink.observe output other = Sink.observe output sink

variable {sink : Sink}

/-- A stage that only writes, on a fair sink. -/
theorem unflushed_inStage {stage : IoError → Failure} {act : EStateM IoError Sink Unit}
    {bs : Bytes} {code : UInt8} {opening : String} (h : Writes act bs ())
    (hstage : ∀ e, (stage e).exitError = ⟨code, opening ++ e.text⟩) (hf : sink.Fair) :
    Unflushed (inStage stage act) code opening sink := by
  have hfull : (Sink.observe (inStage stage act) {}).held = bs := by
    rw [observe_inStage h Sink.fair_default]
    rfl
  have hseen : Sink.observe (inStage stage act) sink = _ := observe_inStage h hf
  refine ⟨?_, ?_, ?_, ?_, ?_⟩
  · rw [hseen, hfull]
  · rw [hseen, hfull]
    cases sink.fits bs <;> simp
  · rw [hseen]
  · intro f hfailure
    rw [hseen] at hfailure
    cases hfits : sink.fits bs with
    | true => simp [hfits] at hfailure
    | false =>
      rw [hfits] at hfailure
      cases hfailure
      rw [hstage, sink.text_exhaustion]
  · intro other hother hroom hheld hflushes hfailure
    have hfits : other.fits bs = sink.fits bs := by rw [Sink.fits, Sink.fits, hroom]
    have hfitting : other.fitting bs = sink.fitting bs := by rw [Sink.fitting, Sink.fitting, hroom]
    rw [observe_inStage h hother, hseen, hfits, hfitting, hheld, hflushes, Sink.exhaustion,
      Sink.exhaustion, hfailure]

namespace YearSpan

/-- **The export and the array on a fair sink.** Neither is ever flushed. A failure of the export,
be it only of the newline at its end, has exit code 4; one of the array has exit code 3. -/
theorem writeExport_writeJson_unflushed (s : YearSpan) (hf : sink.Fair) :
    Unflushed s.writeExport 4 "Failed to write export JSON: " sink ∧
      Unflushed s.writeJson 3 "Failed to write report JSON: " sink :=
  ⟨unflushed_inStage s.writes_writeExport (fun _ => rfl) hf,
    unflushed_inStage s.writes_serializeEntries (fun _ => rfl) hf⟩

/-- A sink with room for the export but not for the newline at its end, which takes a byte a call,
interrupts every other call and cannot be flushed; and a sink with no room for the empty array. -/
theorem writeExport_writeJson_unflushed_newline :
    let rules : SinkRules := ⟨some 1, 2, some (.custom .other "disk full"), some .noSpace⟩
    let full := (Sink.observe (writeExport ⟨2010, 2000⟩) {}).held
    let sink : Sink := { rules := rules, room := some (full.length - 1) }
    let short : Sink := { room := some 1 }
    let seen := Sink.observe (writeExport ⟨2010, 2000⟩) sink
    let cut := Sink.observe (writeJson ⟨2010, 2000⟩) short
    sink.Fair ∧ seen.held = full.dropLast ∧ seen.flushes = 0 ∧
      (∃ f, seen.failure? = some f ∧ f.exitError = ⟨4, "Failed to write export JSON: disk full"⟩) ∧
    short.Fair ∧ cut.held = [0x5B] ∧
      ∃ f, cut.failure? = some f ∧
        f.exitError = ⟨3, "Failed to write report JSON: failed to write whole buffer"⟩ := by
  intro rules full sink short seen cut
  have hf : sink.Fair := ⟨by decide, by decide, by rintro e ⟨⟩; simp [IoError.IsInterruption]⟩
  have hf' : short.Fair := ⟨by decide, by decide, by rintro e ⟨⟩⟩
  have hdocument := (writeExport_writeJson_unflushed ⟨2010, 2000⟩ hf).1
  have harray := (writeExport_writeJson_unflushed ⟨2010, 2000⟩ hf').2
  have hfits : sink.fits full = false := by
    have hlength : full.length = _ := congrArg List.length (held_observe_writeExport ⟨2010, 2000⟩)
    rw [List.length_append, List.length_singleton] at hlength
    exact decide_eq_false (show ¬ full.length ≤ full.length - 1 by omega)
  have hcutFits : short.fits (Sink.observe (writeJson ⟨2010, 2000⟩) {}).held = false := by
    rw [held_observe_writeJson]
    decide +kernel
  obtain ⟨f, hfailure⟩ : ∃ f, seen.failure? = some f :=
    Option.ne_none_iff_exists'.1 fun h => Bool.false_ne_true (hfits ▸ hdocument.succeeds.1 h)
  obtain ⟨g, hcut⟩ : ∃ g, cut.failure? = some g :=
    Option.ne_none_iff_exists'.1 fun h => Bool.false_ne_true (hcutFits ▸ harray.succeeds.1 h)
  refine ⟨hf, ?_, hdocument.flushes, ⟨f, hfailure, hdocument.told f hfailure⟩, hf', ?_, g, hcut,
    harray.told g hcut⟩
  · rw [show seen.held = _ from hdocument.held, List.dropLast_eq_take]
    rfl
  · rw [show cut.held = _ from harray.held, held_observe_writeJson]
    decide +kernel

end YearSpan
end AgeReport
