import AgeReport.Proofs.FileSystem.Exports
import AgeReport.Run

/-!
# The order of a run

A run works on two states, what it writes the report to and the files, and either can fail at many
points. The report comes first: as long as it is not complete and flushed, the files are as they
were, and once it is, a failing export takes nothing of it back.

Results:
* `observe_eq`: what is seen of a run, from what is seen of its report and of its export.
* `perform_order`: which states a run leaves, for every way in which either stage ends.
-/

namespace AgeReport

/-- What a call comes to on a fixed input can be decided. -/
instance decidableEqExcept {ε α : Type} [DecidableEq ε] [DecidableEq α] :
    DecidableEq (Except ε α)
  | .error e, .error f => decidable_of_iff (e = f) ⟨congrArg _, Except.error.inj⟩
  | .error _, .ok _ => isFalse nofun
  | .ok _, .error _ => isFalse nofun
  | .ok a, .ok b => decidable_of_iff (a = b) ⟨congrArg _, Except.ok.inj⟩

/-! ## The exit codes of the stages -/

namespace YearSpan

section ExitCodes

variable {σ : Type} [Writer σ] {s : YearSpan} {w w' : σ} {f : Failure}

theorem exitCode_of_writeEntries {format : OutputFormat}
    (h : s.writeEntries format w = .error f w') : f.exitError.exitCode = 3 := by
  cases format with
  | text =>
    obtain ⟨e, -, rfl⟩ := error_of_inStage h
    rfl
  | json =>
    rcases error_of_bind h with harray | ⟨_, _, -, hnewline⟩
    · obtain ⟨e, -, rfl⟩ := error_of_inStage harray
      rfl
    · obtain ⟨e, -, rfl⟩ := error_of_inStage hnewline
      rfl

theorem exitCode_of_writeReport {format : OutputFormat}
    (h : s.writeReport format w = .error f w') : f.exitError.exitCode = 3 := by
  rcases error_of_bind h with hentries | ⟨_, _, -, hflush⟩
  · exact exitCode_of_writeEntries hentries
  · obtain ⟨e, -, rfl⟩ := error_of_inStage hflush
    rfl

end ExitCodes

theorem exitCode_of_exportThrough {s : YearSpan} {path : Bytes} {b b' : Buffered} {f : Failure}
    (h : s.exportThrough path b = .error f b') : f.exitError.exitCode = 4 := by
  rcases error_of_bind h with hdocument | ⟨_, _, -, hflush⟩
  · obtain ⟨e, -, rfl⟩ := error_of_inStage hdocument
    rfl
  · obtain ⟨e, -, rfl⟩ := error_of_inStage hflush
    rfl

theorem exitCode_of_exportTo {s : YearSpan} {cwd : Location} {path : Bytes} {fs fs' : FileSystem}
    {f : Failure} (h : s.exportTo cwd path fs = .error f fs') : f.exitError.exitCode = 4 := by
  unfold exportTo at h
  split at h
  · cases h
    rfl
  · split at h
    · cases h
    · rename_i hthrough
      cases h
      exact exitCode_of_exportThrough hthrough

/-! ## A report that succeeds -/

theorem took_of_writeEntries {s : YearSpan} {format : OutputFormat} {sink sink' : Sink}
    (h : s.writeEntries format sink = .ok () sink') :
    sink.Took (s.reportText format) sink' := by
  cases format with
  | text => exact s.writes_writeLines.took (ok_of_inStage h)
  | json =>
    obtain ⟨_, sink₁, harray, hnewline⟩ := ok_of_bind h
    have htook := s.writes_serializeEntries.took (ok_of_inStage harray)
    exact htook.trans ((writes_put [0x0A]).took (ok_of_inStage hnewline))

/-- A report that succeeds, on whatever sink, is complete and has been flushed once. -/
theorem observe_of_writeReport_ok {s : YearSpan} {format : OutputFormat} {sink : Sink}
    (h : (Sink.observe (s.writeReport format) sink).failure? = none) :
    Sink.observe (s.writeReport format) sink =
      ⟨none, sink.held.toList ++ s.reportText format, sink.flushes + 1⟩ := by
  cases hrun : s.writeReport format sink with
  | error f sink' =>
    rw [Sink.observe_of_error hrun] at h
    cases h
  | ok u sink' =>
    obtain ⟨_, sink₁, hentries, hflush⟩ := ok_of_bind hrun
    have htook := took_of_writeEntries hentries
    have hflushed : sink₁.flush = .ok () sink' := ok_of_inStage hflush
    unfold Sink.flush at hflushed
    split at hflushed
    · cases hflushed
      rw [Sink.observe_of_ok hrun, htook.toList_held, htook.flushes]
    · cases hflushed

end YearSpan

/-! ## The two stages -/

section Stages

variable {σ : Type} {out out' : σ} {fs fs' : FileSystem} {f : Failure}

theorem onOutput_of_ok {act : EStateM Failure σ Unit} (h : act out = .ok () out') :
    onOutput act ⟨out, fs⟩ = .ok () ⟨out', fs⟩ := by
  rw [onOutput, h]

theorem onOutput_of_error {act : EStateM Failure σ Unit} (h : act out = .error f out') :
    onOutput act ⟨out, fs⟩ = .error f ⟨out', fs⟩ := by
  rw [onOutput, h]

theorem onFiles_of_ok {act : EStateM Failure FileSystem Unit} (h : act fs = .ok () fs') :
    onFiles act ⟨out, fs⟩ = .ok () ⟨out, fs'⟩ := by
  rw [onFiles, h]

theorem onFiles_of_error {act : EStateM Failure FileSystem Unit} (h : act fs = .error f fs') :
    onFiles act ⟨out, fs⟩ = .error f ⟨out, fs'⟩ := by
  rw [onFiles, h]

end Stages

namespace RunSettings

variable {r : RunSettings} {cwd : Location} {fs fs' : FileSystem} {f : Failure}

/-- What is left of a run once its report has come through: the export, if one is wanted. -/
def performExport (r : RunSettings) (cwd : Location) : EStateM Failure FileSystem Unit :=
  match r.exportPath with
  | none => pure ()
  | some path => r.span.exportTo cwd path

theorem performExport_of_none (h : r.exportPath = none) (cwd : Location) (fs : FileSystem) :
    r.performExport cwd fs = .ok () fs := by
  rw [performExport, h]
  rfl

theorem performExport_of_some {path : Bytes} (h : r.exportPath = some path) (cwd : Location) :
    r.performExport cwd = r.span.exportTo cwd path := by
  rw [performExport, h]

/-- A run succeeds with its export exactly if one is not wanted, or succeeds. -/
theorem exists_performExport_iff : (∃ fs', r.performExport cwd fs = .ok () fs') ↔
    ∀ path, r.exportPath = some path → ∃ fs', r.span.exportTo cwd path fs = .ok () fs' := by
  cases h : r.exportPath with
  | none => simp [performExport_of_none h]
  | some path => simp [performExport_of_some h]

theorem perform_eq {σ : Type} [Writer σ] (r : RunSettings) (cwd : Location) :
    (r.perform cwd : EStateM Failure (Surroundings σ) Unit) = (do
      onOutput (r.span.writeReport r.format)
      onFiles (r.performExport cwd)) := by
  rw [perform, stages]
  unfold performExport
  cases r.exportPath <;> rfl

/-- A report that fails ends the run. -/
theorem perform_of_report_error {σ : Type} [Writer σ] {out out' : σ}
    (h : r.span.writeReport r.format out = .error f out') :
    r.perform cwd ⟨out, fs⟩ = .error f ⟨out', fs⟩ := by
  rw [perform_eq]
  exact bind_of_error (onOutput_of_error h)

/-- Behind a report that came through the files are left to the export. -/
theorem perform_of_report_ok {σ : Type} [Writer σ] {out out' : σ}
    (h : r.span.writeReport r.format out = .ok () out') :
    r.perform cwd ⟨out, fs⟩ = onFiles (r.performExport cwd) ⟨out', fs⟩ := by
  rw [perform_eq]
  exact bind_of_ok (onOutput_of_ok h)

/-! ## What is seen of a run -/

theorem exitCode_of_performExport (h : r.performExport cwd fs = .error f fs') :
    f.exitError.exitCode = 4 := by
  cases hpath : r.exportPath with
  | none =>
    rw [performExport_of_none hpath] at h
    cases h
  | some path =>
    rw [performExport_of_some hpath] at h
    exact YearSpan.exitCode_of_exportTo h

/-- What is seen of a run on a sink, and the files after it. -/
def observe (r : RunSettings) (cwd : Location) (sink : Sink) (fs : FileSystem) :
    Observation × FileSystem :=
  match r.perform cwd ⟨sink, fs⟩ with
  | .ok _ w => (⟨none, w.output.held.toList, w.output.flushes⟩, w.files)
  | .error f w => (⟨some f, w.output.held.toList, w.output.flushes⟩, w.files)

/-- What is seen of a run: its report and, if that succeeds, its export. -/
theorem observe_eq (r : RunSettings) (cwd : Location) (sink : Sink) (fs : FileSystem) :
    r.observe cwd sink fs =
      let report := Sink.observe (r.span.writeReport r.format) sink
      match report.failure? with
      | some _ => (report, fs)
      | none =>
        match r.performExport cwd fs with
        | .ok _ fs' => (report, fs')
        | .error f fs' => ({ report with failure? := some f }, fs') := by
  cases hreport : r.span.writeReport r.format sink with
  | error f sink' =>
    rw [observe, perform_of_report_error hreport, Sink.observe_of_error hreport]
  | ok u sink' =>
    rw [observe, perform_of_report_ok hreport, Sink.observe_of_ok hreport]
    cases hexport : r.performExport cwd fs with
    | ok u fs' => rw [onFiles_of_ok hexport]
    | error f fs' => rw [onFiles_of_error hexport]

section Cases

variable {sink : Sink}

theorem observe_of_report_failed
    (h : (Sink.observe (r.span.writeReport r.format) sink).failure? = some f) :
    r.observe cwd sink fs = (Sink.observe (r.span.writeReport r.format) sink, fs) := by
  rw [observe_eq]
  dsimp only
  rw [h]

theorem observe_of_export_failed
    (h : (Sink.observe (r.span.writeReport r.format) sink).failure? = none)
    (hexport : r.performExport cwd fs = .error f fs') :
    r.observe cwd sink fs =
      ({ Sink.observe (r.span.writeReport r.format) sink with failure? := some f }, fs') := by
  rw [observe_eq, hexport]
  dsimp only
  rw [h]

theorem observe_of_both (h : (Sink.observe (r.span.writeReport r.format) sink).failure? = none)
    (hexport : r.performExport cwd fs = .ok () fs') :
    r.observe cwd sink fs = (Sink.observe (r.span.writeReport r.format) sink, fs') := by
  rw [observe_eq, hexport]
  dsimp only
  rw [h]

theorem observe_of_no_export (h : r.exportPath = none) (sink : Sink) (fs : FileSystem) :
    r.observe cwd sink fs = (Sink.observe (r.span.writeReport r.format) sink, fs) := by
  cases hreport : (Sink.observe (r.span.writeReport r.format) sink).failure? with
  | some f => exact observe_of_report_failed hreport
  | none => exact observe_of_both hreport (performExport_of_none h cwd fs)

theorem exitCode_of_report_failed
    (h : (Sink.observe (r.span.writeReport r.format) sink).failure? = some f) :
    f.exitError.exitCode = 3 := by
  cases hrun : r.span.writeReport r.format sink with
  | ok u sink' =>
    rw [Sink.observe_of_ok hrun] at h
    cases h
  | error e sink' =>
    rw [Sink.observe_of_error hrun] at h
    cases h
    exact YearSpan.exitCode_of_writeReport hrun

/-- A run succeeds exactly if its report and its export do. -/
theorem failure?_observe_eq_none :
    (r.observe cwd sink fs).1.failure? = none ↔
      (Sink.observe (r.span.writeReport r.format) sink).failure? = none ∧
        ∃ fs', r.performExport cwd fs = .ok () fs' := by
  cases hreport : (Sink.observe (r.span.writeReport r.format) sink).failure? with
  | some f =>
    rw [observe_of_report_failed hreport]
    simp [hreport]
  | none =>
    cases hexport : r.performExport cwd fs with
    | ok u fs' =>
      rw [observe_of_both hreport hexport]
      simp [hreport]
    | error f fs' =>
      rw [observe_of_export_failed hreport hexport]
      simp

end Cases

/-- **The order of a run.** The files count only once the report has succeeded, and only if an
export is wanted: in every other case the run is its report, on any files, and leaves them. A
failed report ends the run with its own failure, whatever the export would have come to. Behind a
report that succeeded the run comes to what the export of the same span to the same path comes to:
a failed one leaves the complete report behind, flushed once. The run succeeds exactly if both
succeed, and then the report is the one of the same run without an export. -/
theorem perform_order (r : RunSettings) (cwd : Location) (sink : Sink) (fs : FileSystem) :
    let full := (Sink.observe (r.span.writeReport r.format) {}).held
    let report := Sink.observe (r.span.writeReport r.format) sink
    let seen := r.observe cwd sink fs
    (report.failure? = none → report = ⟨none, sink.held.toList ++ full, sink.flushes + 1⟩) ∧
    (report.failure? ≠ none ∨ r.exportPath = none →
      ∀ tree, r.observe cwd sink tree = (report, tree)) ∧
    (∀ f, report.failure? = some f → f.exitError.exitCode = 3 ∧ seen = (report, fs)) ∧
    (∀ path, r.exportPath = some path → report.failure? = none →
      (∀ f fs', r.span.exportTo cwd path fs = .error f fs' → f.exitError.exitCode = 4 ∧
        seen = (⟨some f, sink.held.toList ++ full, sink.flushes + 1⟩, fs')) ∧
      ∀ fs', r.span.exportTo cwd path fs = .ok () fs' → seen = (report, fs')) ∧
    (seen.1.failure? = none ↔ report.failure? = none ∧
      ∀ path, r.exportPath = some path → ∃ fs', r.span.exportTo cwd path fs = .ok () fs') ∧
    (seen.1.failure? = none →
      seen.1 = ({ r with exportPath := none }.observe cwd sink fs).1) := by
  intro full report seen
  have hfull : full = r.span.reportText r.format := r.span.held_observe_writeReport r.format
  refine ⟨?_, ?_, ?_, ?_, ?_, ?_⟩
  · intro hok
    rw [hfull]
    exact YearSpan.observe_of_writeReport_ok hok
  · rintro (hfailed | hpath) tree
    · obtain ⟨f, hf⟩ := Option.ne_none_iff_exists'.1 hfailed
      exact observe_of_report_failed hf
    · exact observe_of_no_export hpath sink tree
  · intro f hf
    exact ⟨exitCode_of_report_failed hf, observe_of_report_failed hf⟩
  · intro path hpath hok
    rw [← performExport_of_some hpath]
    refine ⟨fun f fs' hexport => ⟨exitCode_of_performExport hexport, ?_⟩,
      fun fs' hexport => observe_of_both hok hexport⟩
    rw [hfull]
    refine (observe_of_export_failed hok hexport).trans ?_
    rw [YearSpan.observe_of_writeReport_ok hok]
  · rw [← exists_performExport_iff]
    exact failure?_observe_eq_none
  · intro hok
    obtain ⟨hreport, fs', hexport⟩ := failure?_observe_eq_none.1 hok
    have hseen : seen = (report, fs') := observe_of_both hreport hexport
    rw [hseen, observe_of_no_export rfl]

/-- There is room for the array but not for its newline; the directory of the export is missing; and
both come through, with an older file at the path. -/
theorem perform_order_each :
    let place : Location := [Text.bytes "ages.json"]
    let fs := FileSystem.empty.put place (.file [0x7B, 0x7D])
    let r (path : String) : RunSettings := ⟨⟨2010, 2000⟩, .json, some (Text.bytes path)⟩
    let document := Text.bytes ("\x7b\n  \"tool\": \"ages\",\n  \"birth_year\": 2010,\n" ++
      "  \"current_year\": 2000,\n  \"entries\": []\n\x7d\n")
    (r "ages.json").observe [] { room := some 2 } fs =
      (⟨some (.report .incomplete), [0x5B, 0x5D], 0⟩, fs) ∧
    (r "missing/ages.json").observe [] {} fs =
      (⟨some (.createExport (Text.bytes "missing/ages.json") .missing), [0x5B, 0x5D, 0x0A], 1⟩,
        fs) ∧
    (r "ages.json").observe [] {} fs =
      (⟨none, [0x5B, 0x5D, 0x0A], 1⟩, fs.put place (.file document)) := by
  intro place fs r document
  let s : YearSpan := ⟨2010, 2000⟩
  have hshort : Sink.Fair { room := some 2 } := by
    refine ⟨by decide, by decide, ?_⟩
    rintro e ⟨⟩
  have hcut : Sink.observe (s.writeReport .json) { room := some 2 } =
      ⟨some (.report .incomplete), [0x5B, 0x5D], 0⟩ :=
    (s.observe_writeReport .json hshort).trans (by decide +kernel)
  have hreport : Sink.observe (s.writeReport .json) {} = ⟨none, [0x5B, 0x5D, 0x0A], 1⟩ :=
    (s.observe_writeReport .json Sink.fair_default).trans (by decide +kernel)
  have hmissing : s.exportTo [] (Text.bytes "missing/ages.json") fs =
      .error (.createExport (Text.bytes "missing/ages.json") .missing) fs :=
    s.exportTo_of_error (by decide +kernel)
  have hexport : s.exportTo [] (Text.bytes "ages.json") fs =
      .ok () (fs.put place (.file s.document)) :=
    YearSpan.exportTo_of_isRegular (by decide +kernel) (by decide +kernel)
  have hdocument : s.document = document :=
    s.held_observe_writeExport.trans (by decide +kernel)
  obtain ⟨-, -, hfailed, -⟩ := perform_order (r "ages.json") [] { room := some 2 } fs
  obtain ⟨-, -, -, hmissed, -⟩ := perform_order (r "missing/ages.json") [] {} fs
  obtain ⟨-, -, -, hboth, -⟩ := perform_order (r "ages.json") [] {} fs
  refine ⟨?_, ?_, ?_⟩
  · rw [(hfailed (.report .incomplete) (by rw [hcut])).2, hcut]
  · rw [((hmissed _ rfl (by rw [hreport])).1 _ _ hmissing).2, hreport]
    rfl
  · rw [(hboth _ rfl (by rw [hreport])).2 _ hexport, hreport, hdocument]

end RunSettings
end AgeReport
