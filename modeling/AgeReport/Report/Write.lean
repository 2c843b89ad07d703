import AgeReport.Failure
import AgeReport.Output.Writer
import AgeReport.Report.JsonTexts
import AgeReport.Report.Lines

/-!
# Writing the report and the export

The report goes out as lines or as a JSON array, and is flushed once all of it is written; the export
document ends with a newline and is left unflushed. Both are made of stages, which are the same for
every kind of output, so that they are stated once: for the writers here, and for the streams of a
running program.

* `Stages`: computations made of stages;
* `YearSpan.reportStages`, `YearSpan.exportStages`: the report and the export;
* `YearSpan.writeReport`, `YearSpan.writeExport`: the same on a writer.
-/

namespace AgeReport

/-- The form of the report (`OutputFormat`). -/
inductive OutputFormat
  /-- One sentence a line. -/
  | text
  /-- A JSON array. -/
  | json
deriving DecidableEq, Repr

variable {σ : Type}

/-- Names the stage that an error of the writer belongs to. -/
def inStage (stage : IoError → Failure) (act : EStateM IoError σ Unit) : EStateM Failure σ Unit :=
  fun s =>
    match act s with
    | .ok _ s' => .ok () s'
    | .error e s' => .error (stage e) s'

theorem inStage_of_ok {stage : IoError → Failure} {act : EStateM IoError σ Unit} {s s' : σ}
    {u : Unit} (h : act s = .ok u s') : inStage stage act s = .ok () s' := by
  rw [inStage, h]

theorem inStage_of_error {stage : IoError → Failure} {act : EStateM IoError σ Unit} {s s' : σ}
    {e : IoError} (h : act s = .error e s') : inStage stage act s = .error (stage e) s' := by
  rw [inStage, h]

theorem ok_of_inStage {stage : IoError → Failure} {act : EStateM IoError σ Unit} {s s' : σ}
    (h : inStage stage act s = .ok () s') : act s = .ok () s' := by
  cases hact : act s with
  | ok u t =>
    rw [inStage_of_ok hact] at h
    cases h
    rfl
  | error e t =>
    rw [inStage_of_error hact] at h
    cases h

theorem error_of_inStage {stage : IoError → Failure} {act : EStateM IoError σ Unit} {s s' : σ}
    {f : Failure} (h : inStage stage act s = .error f s') :
    ∃ e, act s = .error e s' ∧ f = stage e := by
  cases hact : act s with
  | ok u t =>
    rw [inStage_of_ok hact] at h
    cases h
  | error e t =>
    rw [inStage_of_error hact] at h
    cases h
    exact ⟨e, rfl, rfl⟩

/-! ## The stages -/

/-- Computations `p` that are made of stages: each writes by a computation of `w`, and an error that
ends it is told with the stage. -/
class Stages (w : outParam (Type → Type)) (p : Type → Type) where
  /-- Names the stage that an error belongs to. -/
  stage : (IoError → Failure) → w Unit → p Unit

instance : Stages (EStateM IoError σ) (EStateM Failure σ) where
  stage := inStage

namespace YearSpan

section

variable {w p : Type → Type} [Monad w] [FlushedOutput w] [Monad p] [Stages w p]

/-- The entries as a JSON array (`write_json`). -/
def arrayStage (s : YearSpan) : p Unit :=
  Stages.stage .reportJson (s.serializeEntries.write .indented)

/-- The entries in the given form. -/
def entryStages (s : YearSpan) : OutputFormat → p Unit
  | .text => Stages.stage .report s.writeLines
  | .json => do
    s.arrayStage
    Stages.stage .report (ByteOutput.put [0x0A])

/-- The report and its flush (`write_report`). -/
def reportStages (s : YearSpan) (format : OutputFormat) : p Unit := do
  s.entryStages format
  Stages.stage .report FlushedOutput.flush

/-- The export document with a newline at its end (`write_export`). -/
def documentStage (s : YearSpan) : p Unit :=
  Stages.stage .exportJson do
    s.serializeExport.write .indented
    ByteOutput.put [0x0A]

/-- The export document and its flush: the part of `write_entries_json` behind the opening. -/
def exportStages (s : YearSpan) (path : Bytes) : p Unit := do
  s.documentStage
  Stages.stage (.flushExport path) FlushedOutput.flush

end

/-! ## On a writer -/

variable [Writer σ]

/-- Writes the entries as a JSON array. -/
def writeJson (s : YearSpan) : EStateM Failure σ Unit :=
  s.arrayStage

/-- Writes the entries in the given form, without flushing. -/
def writeEntries (s : YearSpan) (format : OutputFormat) : EStateM Failure σ Unit :=
  s.entryStages format

/-- Writes the report and flushes it. -/
def writeReport (s : YearSpan) (format : OutputFormat) : EStateM Failure σ Unit :=
  s.reportStages format

/-- Writes the export document with a newline at its end. -/
def writeExport (s : YearSpan) : EStateM Failure σ Unit :=
  s.documentStage

end YearSpan
end AgeReport
