import AgeReport.Export
import AgeReport.Proofs.Report.Delivery

/-!
# A buffer before a full device

A full device takes no byte, so whatever is written has to wait in the buffer, and the first write
that finds no room there fails. Into which write that falls depends on how the bytes are divided;
whether there is one depends on their number alone. Bytes that all found room are refused by the
flush, unless there are none.

Results:
* `Writes.waits`, `Writes.refused`: any computation that writes, by the number of its bytes.
* `writeReport_full`, `writeReport_full_of_nil`: a report.
* `exportThrough_full`: the export document.
-/

namespace AgeReport

namespace Buffered

/-- The buffer with further bytes waiting in it. -/
def hold (b : Buffered) (bs : Bytes) : Buffered :=
  { b with waiting := b.waiting ++ bs }

/-- The device takes no byte. -/
def Refuses (b : Buffered) : Prop :=
  b.device.medium = .full

variable {b : Buffered}

@[simp] theorem device_hold (b : Buffered) (bs : Bytes) : (b.hold bs).device = b.device := rfl

theorem Refuses.hold (h : b.Refuses) (bs : Bytes) : (b.hold bs).Refuses := h

@[simp] theorem size_hold (b : Buffered) (bs : Bytes) :
    (b.hold bs).waiting.size = b.waiting.size + bs.length := by
  simp [hold, ← Array.length_toList]

@[simp] theorem hold_nil (b : Buffered) : b.hold [] = b := by
  simp [hold]

theorem hold_hold (b : Buffered) (bs cs : Bytes) : (b.hold bs).hold cs = b.hold (bs ++ cs) := by
  simp only [hold, Buffered.mk.injEq, and_true]
  exact Array.ext' (by simp)

theorem write_full {d : Device} (h : d.medium = .full) {bs : Bytes} (hbs : bs ≠ []) :
    d.write bs = .error .noSpace d := by
  simp [Device.write, hbs, h]

theorem drain_of_empty (h : b.waiting.size = 0) : b.drain = .ok () b := by
  obtain ⟨waiting, device⟩ := b
  obtain rfl : waiting = #[] := Array.eq_empty_of_size_eq_zero h
  simp [drain, Device.write]

theorem drain_full (h : b.Refuses) (hne : b.waiting.size ≠ 0) : b.drain = .error .noSpace b := by
  have hwaiting : b.waiting.toList ≠ [] := by
    intro hnil
    simp [hnil, ← Array.length_toList] at hne
  rw [drain, write_full h hwaiting]

/-- A write without room in the buffer fails, whether it would be the first to go out or not. -/
theorem writeAll_full (h : b.Refuses) {bs : Bytes}
    (hlt : capacity < b.waiting.size + bs.length) : b.writeAll bs = .error .noSpace b := by
  rw [writeAll, if_neg (by omega)]
  by_cases hempty : b.waiting.size = 0
  · have hbs : bs ≠ [] := by
      intro hnil
      simp [hnil, hempty] at hlt
    simp only [drain_of_empty hempty]
    rw [refill, if_neg (by omega), write_full h hbs]
  · rw [drain_full h hempty]

end Buffered

/-! ## Many writes -/

open Buffered

variable {b : Buffered}

theorem putEach_waits (pieces : List Bytes)
    (hle : b.waiting.size + pieces.flatten.length ≤ capacity) :
    (putEach pieces : EStateM IoError Buffered Unit) b = .ok () (b.hold pieces.flatten) := by
  induction pieces generalizing b with
  | nil => simp [putEach, pure, EStateM.pure]
  | cons bs pieces ih =>
    rw [List.flatten_cons, List.length_append] at hle
    have hwrite : b.writeAll bs = .ok () (b.hold bs) := writeAll_of_le (by omega)
    have hrest := ih (b := b.hold bs) (by rw [size_hold]; omega)
    rw [List.flatten_cons, ← hold_hold]
    exact (bind_of_ok hwrite).trans hrest

theorem putEach_refused (hb : b.Refuses) (pieces : List Bytes) (hle : b.waiting.size ≤ capacity)
    (hlt : capacity < b.waiting.size + pieces.flatten.length) :
    ∃ b', (putEach pieces : EStateM IoError Buffered Unit) b = .error .noSpace b' ∧
      b'.device = b.device := by
  induction pieces generalizing b with
  | nil =>
    rw [List.flatten_nil, List.length_nil] at hlt
    omega
  | cons bs pieces ih =>
    rw [List.flatten_cons, List.length_append] at hlt
    by_cases hfits : b.waiting.size + bs.length ≤ capacity
    · have hwrite : b.writeAll bs = .ok () (b.hold bs) := writeAll_of_le hfits
      obtain ⟨b', hrest, hdevice⟩ :=
        ih (hb.hold bs) (by rw [size_hold]; omega) (by rw [size_hold]; omega)
      exact ⟨b', (bind_of_ok hwrite).trans hrest, hdevice⟩
    · have hwrite : b.writeAll bs = .error .noSpace b := writeAll_full hb (by omega)
      exact ⟨b, bind_of_error hwrite, rfl⟩

/-- Bytes that all find room in the buffer wait there, whatever stands behind it. -/
theorem Writes.waits {act : EStateM IoError Buffered Unit} {bs : Bytes} (h : Writes act bs ())
    (hle : b.waiting.size + bs.length ≤ capacity) : act b = .ok () (b.hold bs) := by
  obtain ⟨pieces, rfl, rfl⟩ := h
  exact bind_of_ok (putEach_waits pieces hle)

/-- More bytes than find room are refused, however they are divided into writes. -/
theorem Writes.refused {act : EStateM IoError Buffered Unit} {bs : Bytes} (h : Writes act bs ())
    (hb : b.Refuses) (hle : b.waiting.size ≤ capacity)
    (hlt : capacity < b.waiting.size + bs.length) :
    ∃ b', act b = .error .noSpace b' ∧ b'.device = b.device := by
  obtain ⟨pieces, rfl, rfl⟩ := h
  obtain ⟨b', hput, hdevice⟩ := putEach_refused hb pieces hle hlt
  exact ⟨b', bind_of_error hput, hdevice⟩

/-! ## The report and the export -/

namespace YearSpan

/-- The failure of a report that a full device refuses. It is one of the array if that alone does
not find room; the newline behind it and the flush are told like lines. -/
def refusedReport (s : YearSpan) (format : OutputFormat) : Failure :=
  if format = .json ∧ capacity < (s.arrayText .indented 0).length then .reportJson .noSpace
  else .report .noSpace

/-- The failure of an export that a full device refuses. -/
def refusedExport (s : YearSpan) (path : Bytes) : Failure :=
  if (s.exportText .indented ++ [0x0A]).length ≤ capacity then .flushExport path .noSpace
  else .exportJson .noSpace

/-- Entries behind an empty buffer: they wait if they find room, and are refused if not. -/
theorem writeEntries_full (s : YearSpan) (format : OutputFormat) (hb : b.Refuses)
    (hempty : b.waiting.size = 0) :
    (s.reportText format).length ≤ capacity ∧
        s.writeEntries format b = .ok () (b.hold (s.reportText format)) ∨
      capacity < (s.reportText format).length ∧
        ∃ b', s.writeEntries format b = .error (s.refusedReport format) b' ∧
          b'.device = b.device := by
  cases format with
  | text =>
    rw [refusedReport, if_neg (by simp)]
    by_cases hle : (s.reportText .text).length ≤ capacity
    · have hlines := s.writes_writeLines.waits (b := b) (by rw [hempty, Nat.zero_add]; exact hle)
      exact .inl ⟨hle, inStage_of_ok hlines⟩
    · obtain ⟨b', hlines, hdevice⟩ := s.writes_writeLines.refused hb (by omega)
        (by rw [hempty, Nat.zero_add]; exact Nat.lt_of_not_le hle)
      exact .inr ⟨Nat.lt_of_not_le hle, b', inStage_of_error hlines, hdevice⟩
  | json =>
    have hlength : (s.reportText .json).length = (s.arrayText .indented 0).length + 1 := by
      simp [reportText]
    by_cases harray : (s.arrayText .indented 0).length ≤ capacity
    · rw [refusedReport, if_neg (by omega)]
      have hwaits := (s.writes_serializeEntries (l := .indented)).waits (b := b) (by omega)
      have hsize : (b.hold (s.arrayText .indented 0)).waiting.size =
          (s.arrayText .indented 0).length := by rw [size_hold, hempty, Nat.zero_add]
      -- the newline is a write of its own, behind an array that waits
      by_cases hle : (s.reportText .json).length ≤ capacity
      · have hnewline := (writes_put [0x0A]).waits (b := b.hold (s.arrayText .indented 0))
          (by rw [hsize, List.length_singleton]; omega)
        rw [hold_hold] at hnewline
        exact .inl ⟨hle, (bind_of_ok (inStage_of_ok hwaits)).trans (inStage_of_ok hnewline)⟩
      · obtain ⟨b', hnewline, hdevice⟩ := (writes_put [0x0A]).refused
          (hb.hold (s.arrayText .indented 0)) (by omega)
          (by rw [hsize, List.length_singleton]; omega)
        rw [device_hold] at hdevice
        exact .inr ⟨by omega, b',
          (bind_of_ok (inStage_of_ok hwaits)).trans (inStage_of_error hnewline), hdevice⟩
    · rw [refusedReport, if_pos ⟨rfl, by omega⟩]
      obtain ⟨b', hrefused, hdevice⟩ :=
        (s.writes_serializeEntries (l := .indented)).refused hb (by omega) (by omega)
      exact .inr ⟨by omega, b', bind_of_error (inStage_of_error hrefused), hdevice⟩

/-- A report of any bytes is refused, at the latest when it is flushed. -/
theorem writeReport_full (s : YearSpan) (format : OutputFormat) (hb : b.Refuses)
    (hempty : b.waiting.size = 0) (hne : s.reportText format ≠ []) :
    ∃ b', s.writeReport format b = .error (s.refusedReport format) b' ∧ b'.device = b.device := by
  rcases s.writeEntries_full format hb hempty with ⟨hle, hwaits⟩ | ⟨-, b', hrefused, hdevice⟩
  · have hflush : (b.hold (s.reportText format)).drain = .error .noSpace _ :=
      drain_full (hb.hold (s.reportText format)) (by simp [hne])
    have hfailure : s.refusedReport format = .report .noSpace := by
      rw [refusedReport, if_neg]
      rintro ⟨rfl, hlt⟩
      simp [reportText] at hle
      omega
    rw [hfailure]
    exact ⟨_, (bind_of_ok hwaits).trans (inStage_of_error hflush), rfl⟩
  · exact ⟨b', bind_of_error hrefused, hdevice⟩

/-- A report without bytes has nothing that could be refused. -/
theorem writeReport_full_of_nil (s : YearSpan) (format : OutputFormat) (hb : b.Refuses)
    (hempty : b.waiting.size = 0) (hnil : s.reportText format = []) :
    s.writeReport format b = .ok () b := by
  rcases s.writeEntries_full format hb hempty with ⟨-, hwaits⟩ | ⟨hlt, -⟩
  · rw [hnil, hold_nil] at hwaits
    exact (bind_of_ok hwaits).trans (inStage_of_ok (drain_of_empty hempty))
  · simp [hnil] at hlt

/-- The export document is always refused: while it is written if it does not find room, and when
it is flushed if it does. -/
theorem exportThrough_full (s : YearSpan) (path : Bytes) (hb : b.Refuses)
    (hempty : b.waiting.size = 0) :
    ∃ b', s.exportThrough path b = .error (s.refusedExport path) b' ∧ b'.device = b.device := by
  by_cases hle : (s.exportText .indented ++ [0x0A]).length ≤ capacity
  · have hwaits := s.writes_writeExport.waits (b := b) (by omega)
    have hflush : (b.hold (s.exportText .indented ++ [0x0A])).drain = .error .noSpace _ :=
      drain_full (hb.hold (s.exportText .indented ++ [0x0A])) (by simp)
    rw [refusedExport, if_pos hle]
    exact ⟨_, (bind_of_ok (inStage_of_ok hwaits)).trans (inStage_of_error hflush), rfl⟩
  · obtain ⟨b', hrefused, hdevice⟩ := s.writes_writeExport.refused hb (by omega) (by omega)
    rw [refusedExport, if_neg hle]
    exact ⟨b', bind_of_error (inStage_of_error hrefused), hdevice⟩

end YearSpan
end AgeReport
