import AgeReport.Proofs.Report.Delivery

/-!
# Many outputs on one sink

Reports, arrays and exports are written one after the other to a sink that is never replaced,
whether they come through or not. The sink gets the beginning of all their bytes that it has room
for: the outputs before its limit come through, the one across it fails and uses up the room, and
behind it only what has no bytes still comes through.

Results:
* `Output.write_eq`: one output, on a sink that can be flushed.
* `observeEach_of_no_room`: outputs on a sink without room.
* `observeEach_eq_or`: outputs up to the limit and behind it.
* `leaveEach_eq`: what the sink holds in the end, and how often it was flushed.
* `observeEach_shared`: the bytes, the outcomes and the flushes.
-/

namespace AgeReport

/-- What may be written for a span. -/
inductive Output
  /-- The report in a format. -/
  | report (span : YearSpan) (format : OutputFormat)
  /-- The array alone. -/
  | array (span : YearSpan)
  /-- The export document. -/
  | document (span : YearSpan)
deriving DecidableEq

namespace Output

/-- Writes an output. -/
def write : Output → EStateM Failure Sink Unit
  | report s format => s.writeReport format
  | array s => s.writeJson
  | document s => s.writeExport

/-- All the bytes of an output: those that an unlimited sink gets. -/
def bytes (o : Output) : Bytes :=
  (Sink.observe o.write {}).held

/-- Whether an output flushes the sink at its end. -/
def isReport : Output → Bool
  | report .. => true
  | array _ | document _ => false

end Output

/-- Whether what was observed came through. -/
def Observation.passed (seen : Observation) : Bool :=
  seen.failure?.isNone

namespace Sink

/-- The sink that a computation leaves behind. -/
def leave (act : EStateM Failure Sink Unit) (s : Sink) : Sink :=
  match act s with
  | .ok _ s' => s'
  | .error _ s' => s'

/-- What is seen of an output, with no more than the bytes that it added to the sink. -/
def observeAdded (o : Output) (s : Sink) : Observation :=
  let seen := observe o.write s
  { seen with held := seen.held.drop s.held.size }

/-- Writes outputs one after the other, whether they come through or not. -/
def observeEach : List Output → Sink → List Observation
  | [], _ => []
  | o :: os, s => observeAdded o s :: observeEach os (leave o.write s)

/-- The sink behind outputs that were written one after the other. -/
def leaveEach (os : List Output) (s : Sink) : Sink :=
  os.foldl (fun s o => s.leave o.write) s

end Sink

/-! ## The bytes of an output -/

namespace Output

theorem bytes_report (s : YearSpan) (format : OutputFormat) :
    (report s format).bytes = s.reportText format :=
  s.held_observe_writeReport format

theorem bytes_array (s : YearSpan) : (array s).bytes = s.arrayText .indented 0 :=
  s.held_observe_writeJson

theorem bytes_document (s : YearSpan) : (document s).bytes = s.exportText .indented ++ [0x0A] :=
  s.held_observe_writeExport

/-- Only the lines of a span without years are no bytes. -/
theorem bytes_eq_nil_iff (o : Output) :
    o.bytes = [] ↔ ∃ s, o = report s .text ∧ s.currentYear ≤ s.birthYear := by
  cases o with
  | report s format =>
    rw [bytes_report]
    cases format with
    | text =>
      have hline : ∀ e : AgeEntry, e.line ++ [0x0A] ≠ [] := by simp
      have hlength := s.toNat_length
      have hle : s.currentYear ≤ s.birthYear ↔ s.entries = [] := by
        rw [← List.length_eq_zero_iff, s.length_entries, Int32.le_iff_toInt_le]
        omega
      rw [YearSpan.reportText, YearSpan.linesText, List.flatMap_eq_nil_iff]
      simp only [hline, imp_false]
      rw [← List.eq_nil_iff_forall_not_mem, ← hle]
      simp
    | json => simp [YearSpan.reportText]
  | array s => simp [bytes_array, YearSpan.arrayText, Json.Layout.group]
  | document s => simp [bytes_document]

/-! ## One output -/

variable {sink : Sink}

/-- Why an output fails for which there is no room. -/
def failure (sink : Sink) : Output → Failure
  | report s format => s.exhaustedReport format sink
  | array _ => .reportJson sink.exhaustion
  | document _ => .exportJson sink.exhaustion

/-- One output, on a fair sink that can be flushed. -/
theorem write_eq (o : Output) (hf : sink.Fair) (hflush : sink.rules.flushError = none) :
    ∃ sink', sink.Took (sink.fitting o.bytes) sink' ∧ o.write sink =
      if sink.fits o.bytes then
        .ok () { sink' with flushes := sink'.flushes + if o.isReport then 1 else 0 }
      else .error (o.failure sink) sink' := by
  cases o with
  | report s format =>
    obtain ⟨sink', htook, heq⟩ := s.writeEntries_eq format hf
    rw [bytes_report]
    refine ⟨sink', htook, ?_⟩
    cases hfits : sink.fits (s.reportText format) with
    | true =>
      rw [hfits] at heq
      have hok := Sink.flush_of_none (htook.rules ▸ hflush)
      exact (bind_of_ok heq).trans (inStage_of_ok hok)
    | false =>
      rw [hfits] at heq
      exact bind_of_error heq
  | array s =>
    rw [bytes_array]
    exact inStage_eq_of_writes .reportJson s.writes_serializeEntries hf
  | document s =>
    rw [bytes_document]
    exact inStage_eq_of_writes .exportJson s.writes_writeExport hf

theorem observeAdded_eq (o : Output) (hf : sink.Fair) (hflush : sink.rules.flushError = none) :
    (sink.observeAdded o).passed = sink.fits o.bytes ∧
      (sink.observeAdded o).held = sink.fitting o.bytes := by
  obtain ⟨sink', htook, heq⟩ := o.write_eq hf hflush
  have hheld := htook.toList_held
  rw [Sink.observeAdded]
  cases hfits : sink.fits o.bytes with
  | true =>
    rw [hfits] at heq
    rw [Sink.observe_of_ok heq]
    exact ⟨rfl, by simp [hheld]⟩
  | false =>
    rw [hfits] at heq
    rw [Sink.observe_of_error heq]
    exact ⟨rfl, by simp [hheld]⟩

theorem took_leave_write (o : Output) (hf : sink.Fair) (hflush : sink.rules.flushError = none) :
    sink.Took (sink.fitting o.bytes) { sink.leave o.write with flushes := sink.flushes } := by
  obtain ⟨sink', htook, heq⟩ := o.write_eq hf hflush
  rw [Sink.leave, heq]
  cases sink.fits o.bytes <;> exact ⟨htook.rules, htook.room, htook.held, rfl⟩

theorem flushes_leave_write (o : Output) (hf : sink.Fair) (hflush : sink.rules.flushError = none) :
    (sink.leave o.write).flushes =
      sink.flushes + if o.isReport && (sink.observeAdded o).passed then 1 else 0 := by
  rw [(o.observeAdded_eq hf hflush).1]
  obtain ⟨sink', htook, heq⟩ := o.write_eq hf hflush
  rw [Sink.leave, heq]
  cases sink.fits o.bytes with
  | true =>
    rw [Bool.and_true, ← htook.flushes]
    rfl
  | false =>
    rw [Bool.and_false]
    exact htook.flushes

end Output

/-! ## Many outputs -/

namespace Sink

variable {sink : Sink}

/-- The sink behind an output is as fair as it was, and can be flushed if it could. -/
theorem fair_leave (o : Output) (hf : sink.Fair) (hflush : sink.rules.flushError = none) :
    (sink.leave o.write).Fair ∧ (sink.leave o.write).rules.flushError = none := by
  have hrules : (sink.leave o.write).rules = sink.rules := (o.took_leave_write hf hflush).rules
  exact ⟨hf.of_rules hrules, hrules ▸ hflush⟩

/-- Where there is no room, only what has no bytes comes through, and nothing is added. -/
theorem observeEach_of_no_room (os : List Output) (hf : sink.Fair)
    (hflush : sink.rules.flushError = none) (hroom : sink.room = some 0) :
    (sink.observeEach os).map Observation.passed = os.map (·.bytes.isEmpty) ∧
      (sink.observeEach os).map Observation.held = os.map fun _ => [] := by
  induction os generalizing sink with
  | nil => exact ⟨rfl, rfl⟩
  | cons o os ih =>
    obtain ⟨hpassed, hheld⟩ := o.observeAdded_eq hf hflush
    obtain ⟨hf', hflush'⟩ := fair_leave o hf hflush
    have hfits : sink.fits o.bytes = o.bytes.isEmpty := by
      rw [fits, hroom]
      cases o.bytes <;> rfl
    have hfitting : sink.fitting o.bytes = [] := by rw [fitting_of_room hroom, List.take_zero]
    have hroom' : (sink.leave o.write).room = some 0 := by
      have hleft := (o.took_leave_write hf hflush).room
      rw [hroom] at hleft
      simpa using hleft
    obtain ⟨ihpassed, ihheld⟩ := ih hf' hflush' hroom'
    rw [observeEach, List.map_cons, List.map_cons, List.map_cons, List.map_cons, hpassed, hheld,
      hfits, hfitting, ihpassed, ihheld]
    exact ⟨rfl, rfl⟩

/-- Everything fits and comes through; or there is a first output across the limit, which gets the
room that is left. -/
theorem observeEach_eq_or (os : List Output) (hf : sink.Fair)
    (hflush : sink.rules.flushError = none) :
    (sink.fits (os.flatMap Output.bytes) = true ∧
        (sink.observeEach os).map Observation.passed = os.map (fun _ => true) ∧
        (sink.observeEach os).map Observation.held = os.map Output.bytes) ∨
      ∃ (before : List Output) (o : Output) (after : List Output) (cut : Bytes),
        os = before ++ o :: after ∧
        sink.fits (before.flatMap Output.bytes) = true ∧
        sink.fits (before.flatMap Output.bytes ++ o.bytes) = false ∧
        before.flatMap Output.bytes ++ cut =
          sink.fitting (before.flatMap Output.bytes ++ o.bytes) ∧
        (sink.observeEach os).map Observation.passed =
          before.map (fun _ => true) ++ false :: after.map (·.bytes.isEmpty) ∧
        (sink.observeEach os).map Observation.held =
          before.map Output.bytes ++ cut :: after.map fun _ => [] := by
  induction os generalizing sink with
  | nil => exact .inl ⟨sink.fits_nil, rfl, rfl⟩
  | cons o os ih =>
    obtain ⟨hpassed, hheld⟩ := o.observeAdded_eq hf hflush
    obtain ⟨hf', hflush'⟩ := fair_leave o hf hflush
    have htook := o.took_leave_write hf hflush
    simp only [observeEach, List.map_cons, hpassed, hheld]
    cases hfits : sink.fits o.bytes with
    | false =>
      obtain ⟨hpassed', hheld'⟩ :=
        observeEach_of_no_room os hf' hflush' (htook.room_of_not_fits hfits)
      rw [hpassed', hheld']
      exact .inr ⟨[], o, os, sink.fitting o.bytes, rfl, sink.fits_nil, hfits, rfl, rfl, rfl⟩
    | true =>
      rw [fitting_of_fits hfits] at htook ⊢
      -- what the sink left behind has room for is what the sink has room for behind `o`
      have hrest : ∀ bs, (sink.leave o.write).fits bs = sink.fits (o.bytes ++ bs) :=
        htook.fits_eq hfits
      have hbegin : ∀ bs,
          o.bytes ++ (sink.leave o.write).fitting bs = sink.fitting (o.bytes ++ bs) :=
        htook.fitting_eq hfits
      rcases ih hf' hflush' with ⟨hall, hpassed', hheld'⟩ | ⟨before, next, after, cut, hos, hbefore,
        hnext, hcut, hpassed', hheld'⟩
      · refine .inl ⟨?_, ?_, ?_⟩
        · rw [List.flatMap_cons, ← hrest, hall]
        · rw [hpassed']
        · rw [hheld']
      · refine .inr ⟨o :: before, next, after, cut, ?_, ?_, ?_, ?_, ?_, ?_⟩
        · rw [hos, List.cons_append]
        · rw [List.flatMap_cons, ← hrest, hbefore]
        · rw [List.flatMap_cons, List.append_assoc, ← hrest, hnext]
        · rw [List.flatMap_cons, List.append_assoc, List.append_assoc, hcut, hbegin]
        · rw [hpassed', List.map_cons, List.cons_append]
        · rw [hheld', List.map_cons, List.cons_append]

/-- The sink holds what each output added, and was flushed for each report that came through. -/
theorem leaveEach_eq (os : List Output) (hf : sink.Fair) (hflush : sink.rules.flushError = none) :
    (sink.leaveEach os).held.toList =
        sink.held.toList ++ ((sink.observeEach os).map Observation.held).flatten ∧
      (sink.leaveEach os).flushes = sink.flushes +
        (os.zip (sink.observeEach os)).countP fun p => p.1.isReport && p.2.passed := by
  induction os generalizing sink with
  | nil => exact ⟨(List.append_nil _).symm, rfl⟩
  | cons o os ih =>
    obtain ⟨hf', hflush'⟩ := fair_leave o hf hflush
    obtain ⟨ihheld, ihflushes⟩ := ih hf' hflush'
    have hheld : (sink.leave o.write).held.toList = sink.held.toList ++ sink.fitting o.bytes :=
      (o.took_leave_write hf hflush).toList_held
    have hadded := (o.observeAdded_eq hf hflush).2
    have hleave : sink.leaveEach (o :: os) = (sink.leave o.write).leaveEach os := rfl
    rw [hleave, observeEach]
    refine ⟨?_, ?_⟩
    · rw [ihheld, hheld, List.map_cons, List.flatten_cons, hadded, List.append_assoc]
    · rw [ihflushes, o.flushes_leave_write hf hflush, List.zip_cons_cons, List.countP_cons]
      exact (Nat.add_assoc ..).trans (congrArg _ (Nat.add_comm ..))

/-- **Many outputs on one sink.** The sink gets the beginning of the bytes of all the outputs, up to
the first that no longer fits, which fails. Those before it come through with all their bytes;
behind it only what has no bytes comes through, which is the text report of a span without years.
The sink is flushed once for each report that came through. -/
theorem observeEach_shared (os : List Output) (hf : sink.Fair)
    (hflush : sink.rules.flushError = none) :
    let seen := sink.observeEach os
    let left := sink.leaveEach os
    let written := (seen.map Observation.held).flatten
    left.held.toList = sink.held.toList ++ written ∧
    left.flushes =
      sink.flushes + (os.zip seen).countP (fun p => p.1.isReport && p.2.passed) ∧
    ((sink.fits (os.flatMap Output.bytes) = true ∧ written = os.flatMap Output.bytes ∧
        seen.map Observation.passed = os.map fun _ => true) ∨
      ∃ (before : List Output) (o : Output) (after : List Output) (cut : Bytes),
        os = before ++ o :: after ∧
        sink.fits (before.flatMap Output.bytes) = true ∧
        sink.fits (before.flatMap Output.bytes ++ o.bytes) = false ∧
        written = sink.fitting (before.flatMap Output.bytes ++ o.bytes) ∧
        seen.map Observation.passed =
          before.map (fun _ => true) ++ false :: after.map (·.bytes.isEmpty) ∧
        seen.map Observation.held =
          before.map Output.bytes ++ cut :: after.map fun _ => []) ∧
    ∀ o : Output, o.bytes = [] ↔ ∃ s, o = .report s .text ∧ s.currentYear ≤ s.birthYear := by
  intro seen left written
  obtain ⟨hheld, hflushes⟩ := leaveEach_eq os hf hflush
  refine ⟨hheld, hflushes, ?_, Output.bytes_eq_nil_iff⟩
  rcases observeEach_eq_or os hf hflush with ⟨hfits, hpassed, heach⟩ | ⟨before, o, after, cut, hos,
    hbefore, ho, hcut, hpassed, heach⟩
  · refine .inl ⟨hfits, ?_, hpassed⟩
    rw [show written = _ from congrArg List.flatten heach, List.flatMap_def]
  · refine .inr ⟨before, o, after, cut, hos, hbefore, ho, ?_, hpassed, heach⟩
    have hnone : (after.map fun _ => ([] : Bytes)).flatten = [] := by simp
    rw [show written = _ from congrArg List.flatten heach, List.flatten_append,
      List.flatten_cons, hnone, List.append_nil, ← List.flatMap_def, hcut]

/-- A sink with room for the report of the empty array and for one more byte, which takes a byte a
call and interrupts every other call: the array behind the report is cut, the empty report behind
both comes through. -/
theorem observeEach_shared_cut :
    let rules : SinkRules := ⟨some 1, 2, some (.custom .other "disk full"), none⟩
    let sink : Sink := { rules := rules, room := some 4 }
    let os : List Output :=
      [.report ⟨2010, 2000⟩ .json, .array ⟨2010, 2000⟩, .report ⟨2000, 2000⟩ .text]
    sink.Fair ∧ (sink.leaveEach os).held.toList = [0x5B, 0x5D, 0x0A, 0x5B] ∧
      (sink.leaveEach os).flushes = 2 ∧
      (sink.observeEach os).map Observation.passed = [true, false, true] := by
  intro rules sink os
  have hf : sink.Fair := ⟨by decide, by decide, by rintro e ⟨⟩; simp [IoError.IsInterruption]⟩
  have hreport : (Output.report ⟨2010, 2000⟩ .json).bytes = [0x5B, 0x5D, 0x0A] :=
    (Output.bytes_report ⟨2010, 2000⟩ .json).trans (by decide +kernel)
  have harray : (Output.array ⟨2010, 2000⟩).bytes = [0x5B, 0x5D] :=
    (Output.bytes_array ⟨2010, 2000⟩).trans (by decide +kernel)
  have hempty : (Output.report ⟨2000, 2000⟩ .text).bytes = [] :=
    (Output.bytes_report ⟨2000, 2000⟩ .text).trans (by decide +kernel)
  have hlong : ∀ bs : List Output, 4 <
      ((.report ⟨2010, 2000⟩ .json :: .array ⟨2010, 2000⟩ :: bs).flatMap Output.bytes).length := by
    intro bs
    simp only [List.flatMap_cons, hreport, harray, List.length_append, List.length_cons,
      List.length_nil]
    omega
  obtain ⟨hheld, hflushes, hcases, -⟩ := observeEach_shared os hf rfl
  rcases hcases with ⟨hall, -⟩ | ⟨before, o, after, cut, hos, hbefore, ho, hwritten, hpassed, -⟩
  · exact absurd (of_decide_eq_true hall) (Nat.not_le.2 (hlong _))
  · rcases before with _ | ⟨first, _ | ⟨second, before⟩⟩
    · obtain ⟨rfl, -⟩ := List.cons.inj hos
      rw [List.flatMap_nil, List.nil_append, hreport] at ho
      cases ho
    · obtain ⟨rfl, rfl⟩ : o = .array ⟨2010, 2000⟩ ∧ after = [.report ⟨2000, 2000⟩ .text] := by
        simpa [os, eq_comm] using (List.cons.inj hos).2
      simp only [os, observeEach, List.map_cons, List.map_nil, hempty, List.isEmpty_nil,
        List.cons_append, List.nil_append, List.cons.injEq, and_true] at hpassed
      refine ⟨hf, ?_, ?_, ?_⟩
      · rw [hheld, hwritten]
        obtain rfl : first = _ := (List.cons.inj hos).1.symm
        simp [fitting, hreport, harray, sink]
      · rw [hflushes]
        simp [os, observeEach, hpassed, Output.isReport, sink]
      · simp [os, observeEach, hpassed]
    · obtain ⟨hfirst, hrest⟩ := List.cons.inj hos
      obtain ⟨hsecond, -⟩ := List.cons.inj hrest
      rw [← hfirst, ← hsecond] at hbefore
      exact absurd (of_decide_eq_true hbefore) (Nat.not_le.2 (hlong _))

end Sink
end AgeReport
