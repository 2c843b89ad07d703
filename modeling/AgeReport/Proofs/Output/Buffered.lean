import AgeReport.Output.Buffered
import AgeReport.Proofs.Report.Texts

/-!
# A buffer before a device that keeps everything

Bytes reach such a device late, many at a time, and none is lost on the way: what the device holds
and what still waits are together what was written, in order, and a flush leaves nothing waiting.

Results:
* `Writes.buffered`: any computation that writes comes through, with all of its bytes.
* `YearSpan.writeReport_buffered`: a report reaches the device as its text.
-/

namespace AgeReport

namespace Buffered

/-- All bytes written so far: those that the device holds, and behind them those that wait. -/
def received (b : Buffered) : Bytes :=
  b.device.held.toList ++ b.waiting.toList

/-- The device keeps every byte. -/
def Keeps (b : Buffered) : Prop :=
  b.device.medium = .keeping

variable {b : Buffered} {bs : Bytes}

theorem write_keeping {d : Device} (h : d.medium = .keeping) (bs : Bytes) :
    d.write bs = .ok () { d with held := d.held ++ bs } := by
  obtain ⟨medium, held⟩ := d
  cases h
  rw [Device.write]
  split
  · rename_i hbs
    simp [hbs]
  · rfl

theorem drain_keeping (h : b.Keeps) : ∃ b', b.drain = .ok () b' ∧ b'.Keeps ∧
    b'.device.held.toList = b.received ∧ b'.waiting = #[] := by
  rw [drain, write_keeping h]
  exact ⟨_, rfl, h, by simp [received], rfl⟩

theorem refill_keeping (h : b.Keeps) (hempty : b.waiting = #[]) (bs : Bytes) :
    ∃ b', b.refill bs = .ok () b' ∧ b'.Keeps ∧ b'.received = b.received ++ bs := by
  rw [refill]
  split
  · exact ⟨_, rfl, h, by simp [received, hempty]⟩
  · rw [write_keeping h]
    exact ⟨_, rfl, h, by simp [received, hempty]⟩

theorem writeAll_keeping (h : b.Keeps) (bs : Bytes) :
    ∃ b', b.writeAll bs = .ok () b' ∧ b'.Keeps ∧ b'.received = b.received ++ bs := by
  rw [writeAll]
  split
  · exact ⟨_, rfl, h, by simp [received]⟩
  · obtain ⟨b₁, hdrain, hb₁, hheld, hempty⟩ := drain_keeping h
    obtain ⟨b₂, hrefill, hb₂, hreceived⟩ := refill_keeping hb₁ hempty bs
    rw [hdrain]
    refine ⟨b₂, hrefill, hb₂, ?_⟩
    rw [hreceived, received, hheld, hempty]
    simp

end Buffered

/-! ## Many writes -/

variable {b : Buffered}

theorem putEach_buffered (hb : b.Keeps) (pieces : List Bytes) :
    ∃ b', (putEach pieces : EStateM IoError Buffered Unit) b = .ok () b' ∧ b'.Keeps ∧
      b'.received = b.received ++ pieces.flatten := by
  induction pieces generalizing b with
  | nil => exact ⟨b, rfl, hb, by simp⟩
  | cons bs pieces ih =>
    obtain ⟨b₁, hwrite, hb₁, hreceived₁⟩ := Buffered.writeAll_keeping hb bs
    obtain ⟨b₂, hrest, hb₂, hreceived₂⟩ := ih hb₁
    refine ⟨b₂, (bind_of_ok hwrite).trans hrest, hb₂, ?_⟩
    rw [hreceived₂, hreceived₁, List.flatten_cons, List.append_assoc]

/-- Any computation that writes comes through a buffer before a device that keeps everything. -/
theorem Writes.buffered {α : Type} {act : EStateM IoError Buffered α} {bs : Bytes} {a : α}
    (h : Writes act bs a) (hb : b.Keeps) :
    ∃ b', act b = .ok a b' ∧ b'.Keeps ∧ b'.received = b.received ++ bs := by
  obtain ⟨pieces, rfl, rfl⟩ := h
  obtain ⟨b', hput, hb', hreceived⟩ := putEach_buffered hb pieces
  exact ⟨b', bind_of_ok hput, hb', hreceived⟩

namespace YearSpan

theorem writeEntries_buffered (s : YearSpan) (format : OutputFormat) (hb : b.Keeps) :
    ∃ b', s.writeEntries format b = .ok () b' ∧ b'.Keeps ∧
      b'.received = b.received ++ s.reportText format := by
  cases format with
  | text =>
    obtain ⟨b', hlines, hb', hreceived⟩ := s.writes_writeLines.buffered hb
    exact ⟨b', inStage_of_ok hlines, hb', hreceived⟩
  | json =>
    obtain ⟨b₁, harray, hb₁, hreceived₁⟩ := s.writes_serializeEntries.buffered hb
    obtain ⟨b₂, hnewline, hb₂, hreceived₂⟩ := (writes_put [0x0A]).buffered hb₁
    refine ⟨b₂, (bind_of_ok (inStage_of_ok harray)).trans (inStage_of_ok hnewline), hb₂, ?_⟩
    rw [hreceived₂, hreceived₁, List.append_assoc]
    rfl

/-- A report reaches a device that keeps everything, as its text. -/
theorem writeReport_buffered (s : YearSpan) (format : OutputFormat) (hb : b.Keeps) :
    ∃ b', s.writeReport format b = .ok () b' ∧
      b'.device.held.toList = b.received ++ s.reportText format := by
  obtain ⟨b₁, hentries, hb₁, hreceived⟩ := s.writeEntries_buffered format hb
  obtain ⟨b₂, hflush, -, hheld, -⟩ := Buffered.drain_keeping hb₁
  exact ⟨b₂, (bind_of_ok hentries).trans (inStage_of_ok hflush), hheld.trans hreceived⟩

end YearSpan
end AgeReport
