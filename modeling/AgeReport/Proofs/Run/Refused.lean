import AgeReport.Proofs.FileSystem.Opening
import AgeReport.Proofs.Output.FullDevice
import AgeReport.Proofs.Report.SharedSink
import AgeReport.Proofs.Run.Pipeline

/-!
# A run on full devices

A full device shows at the end of a report or of an export, however early the first byte was
written, and the number of bytes decides how it is told. No buffer hides it: what it kept is
refused when it is flushed.

Results:
* `exportTo_full`: an export to a full device.
* `run_of_report_refused`, `run_of_report_empty`: a run with standard output on a full device.
* `exportTo_run_full`: both, with their messages.
-/

namespace AgeReport

/-! ## The export -/

namespace YearSpan

variable {s : YearSpan} {fs : FileSystem} {cwd place : Location} {path : Bytes}

/-- An export to a full device always fails, and the files stay as they are. -/
theorem exportTo_full (h : fs.openForWriting cwd path = .ok place)
    (hfull : fs.node? place = some (.device .full)) :
    s.exportTo cwd path fs = .error (s.refusedExport path) fs := by
  have hmedium : fs.mediumAt place = .full := FileSystem.mediumAt_of_device hfull
  obtain ⟨b, hthrough, -⟩ :=
    s.exportThrough_full path (b := { device := { medium := fs.mediumAt place } }) hmedium rfl
  simp only [exportTo, h, hthrough, FileSystem.store_of_device hfull]

/-- Only the lines of a span without years are no bytes. -/
theorem reportText_eq_nil_iff (s : YearSpan) (format : OutputFormat) :
    s.reportText format = [] ↔ format = .text ∧ s.currentYear ≤ s.birthYear := by
  rw [← Output.bytes_report, Output.bytes_eq_nil_iff]
  constructor
  · rintro ⟨t, ht, hle⟩
    obtain ⟨rfl, rfl⟩ := Output.report.inj ht
    exact ⟨rfl, hle⟩
  · rintro ⟨rfl, hle⟩
    exact ⟨s, rfl, hle⟩

theorem exitError_refusedReport (s : YearSpan) (format : OutputFormat) :
    (s.refusedReport format).exitError =
      ⟨3, (if format = .json ∧ Buffered.capacity < (s.arrayText .indented 0).length
        then "Failed to write report JSON: " else "Failed to write report: ") ++
        IoError.noSpace.text⟩ := by
  rw [refusedReport]
  split <;> rfl

theorem exitError_refusedExport (s : YearSpan) (path : Bytes) :
    (s.refusedExport path).exitError =
      ⟨4, (if (s.exportText .indented ++ [0x0A]).length ≤ Buffered.capacity
        then "Failed to flush export '" ++ Text.lossy path ++ "': "
        else "Failed to write export JSON: ") ++ IoError.noSpace.text⟩ := by
  rw [refusedExport]
  split <;> rfl

end YearSpan

/-! ## The report -/

/-- What a run works on at its start: nothing waits, and nothing is at the device. -/
def Invocation.start (i : Invocation) (fs : FileSystem) : Surroundings Buffered :=
  ⟨{ device := { medium := i.stdout } }, fs⟩

variable {i : Invocation} {fs : FileSystem} {o : Options} {e : Environment} {r : RunSettings}

namespace RunSettings

variable {w : Surroundings Buffered}

theorem outcome_of_ok (h : r.perform i.cwd (i.start fs) = .ok () w) :
    r.outcome i fs = (⟨0, w.output.device.held.toList, []⟩, w.files) := by
  rw [Invocation.start] at h
  simp only [outcome, h]

theorem outcome_of_error {f : Failure} {code : UInt8}
    (h : r.perform i.cwd (i.start fs) = .error f w) (hcode : f.exitError.exitCode = code) :
    r.outcome i fs = (⟨code, w.output.device.held.toList, f.told⟩, w.files) := by
  rw [Invocation.start] at h
  simp only [outcome, h, Outcome.ofFailure_eq hcode]

end RunSettings

/-- A report of any bytes ends the run, and the export is not begun. -/
theorem run_of_report_refused (hout : i.stdout = .full)
    (ho : Options.ofArguments i.arguments = .ok o) (he : i.loadedEnvironment fs = .ok e)
    (hs : o.settings e.boundText? = .ok r)
    (hne : r.span.reportText r.format ≠ []) :
    run i fs = (⟨3, [], (r.span.refusedReport r.format).told⟩, fs) := by
  have hcode : (r.span.refusedReport r.format).exitError.exitCode = 3 := by
    rw [YearSpan.exitError_refusedReport]
  obtain ⟨b, hwrite, hdevice⟩ := r.span.writeReport_full r.format (b := (i.start fs).output)
    hout rfl hne
  have hperform : r.perform i.cwd (i.start fs) = .error (r.span.refusedReport r.format) ⟨b, fs⟩ :=
    RunSettings.perform_of_report_error hwrite
  rw [run_of_loaded ho he, hs, Invocation.conclude,
    RunSettings.outcome_of_error hperform hcode, hdevice]
  rfl

/-- A report without bytes comes through, and the export decides how the run ends. -/
theorem run_of_report_empty (hout : i.stdout = .full)
    (ho : Options.ofArguments i.arguments = .ok o) (he : i.loadedEnvironment fs = .ok e)
    (hs : o.settings e.boundText? = .ok r)
    (hnil : r.span.reportText r.format = []) :
    (∀ fs', r.performExport i.cwd fs = .ok () fs' → run i fs = (⟨0, [], []⟩, fs')) ∧
    ∀ f fs', r.performExport i.cwd fs = .error f fs' → run i fs = (⟨4, [], f.told⟩, fs') := by
  have hwrite := r.span.writeReport_full_of_nil r.format (b := (i.start fs).output) hout rfl hnil
  have hperform : r.perform i.cwd (i.start fs) =
      onFiles (r.performExport i.cwd) (i.start fs) := RunSettings.perform_of_report_ok hwrite
  rw [run_of_loaded ho he, hs, Invocation.conclude]
  constructor
  · intro fs' hexport
    exact RunSettings.outcome_of_ok (hperform.trans (onFiles_of_ok hexport))
  · intro f fs' hexport
    exact RunSettings.outcome_of_error (hperform.trans (onFiles_of_error hexport))
      (RunSettings.exitCode_of_performExport hexport)

namespace YearSpan

/-- **Full devices.** An export to a full device always fails with code 4 and leaves the files as
they are; it fails when it is flushed exactly if the document, with its last newline, has at most
8192 bytes. With standard output on such a device, the text report of a span without years has
nothing to lose and the run goes on to its export. Every other report ends the run with code 3
before any file is touched; it fails as an array exactly if the array, without the newline behind
it, has more than 8192 bytes. -/
theorem exportTo_run_full (s : YearSpan) :
    let array := (Sink.observe s.writeJson {}).held
    let document := (Sink.observe s.writeExport {}).held
    (∀ (fs : FileSystem) cwd path place, fs.openForWriting cwd path = .ok place →
      fs.node? place = some (.device .full) → ∃ f, s.exportTo cwd path fs = .error f fs ∧
        f.exitError.exitCode = 4 ∧
        ("Failed to flush export ".toList <+: f.exitError.message.toList ↔
          document.length ≤ 8192) ∧
        ("Failed to write export JSON: ".toList <+: f.exitError.message.toList ↔
          8192 < document.length)) ∧
    ∀ (i : Invocation) (fs : FileSystem) (o : Options) (e : Environment) (r : RunSettings),
      i.stdout = .full → Options.ofArguments i.arguments = .ok o →
      i.loadedEnvironment fs = .ok e → o.settings e.boundText? = .ok r → r.span = s →
      (r.format = .text ∧ s.currentYear ≤ s.birthYear →
        (∀ fs', r.performExport i.cwd fs = .ok () fs' → run i fs = (⟨0, [], []⟩, fs')) ∧
        ∀ f fs', r.performExport i.cwd fs = .error f fs' → run i fs = (⟨4, [], f.told⟩, fs')) ∧
      (¬ (r.format = .text ∧ s.currentYear ≤ s.birthYear) →
        ∃ f : Failure, run i fs = (⟨3, [], f.told⟩, fs) ∧
          ("Failed to write report JSON: ".toList <+: f.exitError.message.toList ↔
            r.format = .json ∧ 8192 < array.length) ∧
          ("Failed to write report: ".toList <+: f.exitError.message.toList ↔
            ¬ (r.format = .json ∧ 8192 < array.length))) := by
  intro array document
  have harray : array = s.arrayText .indented 0 := s.held_observe_writeJson
  have hdocument : document = s.exportText .indented ++ [0x0A] := s.held_observe_writeExport
  rw [harray, hdocument]
  constructor
  · intro fs cwd path place h hfull
    refine ⟨s.refusedExport path, exportTo_full h hfull, ?_⟩
    rw [s.exitError_refusedExport]
    split
    · rename_i hle
      have hnot : ¬ 8192 < (s.exportText .indented ++ [0x0A]).length := Nat.not_lt.2 hle
      refine ⟨rfl, iff_of_true ?_ hle, iff_of_false ?_ hnot⟩ <;> simp [String.toList_append]
    · rename_i hnot
      have hlt : 8192 < (s.exportText .indented ++ [0x0A]).length := Nat.lt_of_not_le hnot
      refine ⟨rfl, iff_of_false ?_ hnot, iff_of_true ?_ hlt⟩ <;> simp [String.toList_append]
  · intro i fs o e r hout ho he hs hspan
    subst hspan
    constructor
    · rintro ⟨htext, hempty⟩
      exact run_of_report_empty hout ho he hs ((reportText_eq_nil_iff _ _).2 ⟨htext, hempty⟩)
    · intro hne
      refine ⟨r.span.refusedReport r.format,
        run_of_report_refused hout ho he hs (mt (reportText_eq_nil_iff _ _).1 hne), ?_⟩
      rw [r.span.exitError_refusedReport]
      split
      · rename_i hlong
        refine ⟨iff_of_true ?_ hlong, iff_of_false ?_ (not_not_intro hlong)⟩ <;>
          simp [String.toList_append]
      · rename_i hshort
        refine ⟨iff_of_false ?_ hshort, iff_of_true ?_ hshort⟩ <;> simp [String.toList_append]

/-- An export behind a short path to the device, and an array that waits in the buffer of a run. -/
theorem exportTo_run_full_device :
    let fs := (FileSystem.empty.put [Text.bytes "dev"] .directory).put
      [Text.bytes "full", Text.bytes "dev"] (.device .full)
    let i : Invocation :=
      { arguments := [Text.bytes "--birth-year=2000", Text.bytes "--current-year=2001",
          Text.bytes "--format=json", Text.bytes "--export=ages.json"]
        environment := ⟨[]⟩, cwd := [], stdout := .full }
    (∃ f, exportTo ⟨2000, 2001⟩ [Text.bytes "dev"] (Text.bytes "full") fs = .error f fs ∧
      f.exitError.exitCode = 4 ∧
      "Failed to flush export ".toList <+: f.exitError.message.toList) ∧
    ∃ f : Failure, run i fs = (⟨3, [], f.told⟩, fs) ∧
      "Failed to write report: ".toList <+: f.exitError.message.toList := by
  intro fs i
  let s : YearSpan := ⟨2000, 2001⟩
  let o : Options :=
    { birthYear := some 2000, currentYear := some 2001, format := .json,
      exportPath := some (Text.bytes "ages.json") }
  have ho : Options.ofArguments i.arguments = .ok o := by decide +kernel
  have hopen : fs.openForWriting [Text.bytes "dev"] (Text.bytes "full") =
      .ok [Text.bytes "full", Text.bytes "dev"] := by decide +kernel
  have hdocument : (Sink.observe s.writeExport {}).held.length ≤ 8192 := by
    rw [s.held_observe_writeExport]
    decide +kernel
  have harray : (Sink.observe s.writeJson {}).held.length ≤ 8192 := by
    rw [s.held_observe_writeJson]
    decide +kernel
  obtain ⟨hexport, hrun⟩ := exportTo_run_full s
  obtain ⟨f, hf, hcode, hflush, -⟩ := hexport fs _ _ _ hopen (by decide +kernel)
  refine ⟨⟨f, hf, hcode, hflush.2 hdocument⟩, ?_⟩
  obtain ⟨-, hreport⟩ := hrun i fs o i.environment ⟨s, .json, o.exportPath⟩ rfl ho
    (loadedEnvironment_of_none rfl) rfl rfl
  obtain ⟨f, hf, -, hmessage⟩ := hreport (by decide)
  exact ⟨f, hf, hmessage.2 (fun h => Nat.not_lt.2 harray h.2)⟩

end YearSpan
end AgeReport
