import AgeReport.Proofs.Report.Layout

/-!
# The two layouts of the export

The indented layout puts each part on a line of its own, and a space behind each colon; the compact
one does neither. Everything else they write alike, and no name, no number and no string of the
export has a space or a newline in it. So the compact text is what is left of the indented one
without its spaces and newlines.

As with the depth, this holds part by part: what is left of parts between brackets are the parts
that are left, between the same brackets, and an empty list is written alike at once.

Results:
* `squeeze_group`, `squeeze_member`: parts between brackets, and members.
* `squeeze_exportText`: the export in any layout.
* `writeExport_squeezed`: what a sink with enough room holds.
-/

namespace AgeReport

/-! ## Texts without spaces and newlines -/

/-- The text without its spaces and newlines. -/
def squeeze (bs : Bytes) : Bytes :=
  bs.filter fun b => b ≠ 0x20 ∧ b ≠ 0x0A

theorem squeeze_append (bs cs : Bytes) : squeeze (bs ++ cs) = squeeze bs ++ squeeze cs :=
  List.filter_append bs cs

theorem squeeze_of_notMem {bs : Bytes} (hspace : 0x20 ∉ bs) (hnewline : 0x0A ∉ bs) :
    squeeze bs = bs := by
  refine List.filter_eq_self.2 fun b hb => decide_eq_true ⟨?_, ?_⟩
  · rintro rfl
    exact hspace hb
  · rintro rfl
    exact hnewline hb

theorem Decimal.squeeze_bytes (n : Int) : squeeze (bytes n) = bytes n :=
  squeeze_of_notMem (notMem_bytes (by decide) (by decide) n) (newline_notMem_bytes n)

namespace Json.Layout

variable {l : Layout} {d : Nat} {parts : List Bytes}

theorem squeeze_newline (l : Layout) (d : Nat) : squeeze (l.newline d) = [] := by
  cases l with
  | compact => rfl
  | indented =>
    refine List.filter_eq_nil_iff.2 fun b hb => ?_
    rw [newline, List.mem_cons, List.mem_replicate] at hb
    rcases hb with rfl | ⟨-, rfl⟩ <;> decide

theorem squeeze_further (d' : Nat) :
    squeeze (l.further d parts) = compact.further d' (parts.map squeeze) := by
  have hcomma : squeeze [0x2C] = [0x2C] := rfl
  induction parts with
  | nil => rfl
  | cons part parts ih =>
    rw [further, List.map_cons, further, squeeze_append, squeeze_append, squeeze_append, ih,
      squeeze_newline, hcomma]
    rfl

/-- **Parts between brackets, without spaces and newlines.** The depth is lost with the indents. -/
theorem squeeze_group (b : Bracket) (d' : Nat) :
    squeeze (l.group b d parts) = compact.group b d' (parts.map squeeze) := by
  have hopening : squeeze [b.opening] = [b.opening] := by cases b <;> rfl
  have hclosing : squeeze [b.closing] = [b.closing] := by cases b <;> rfl
  rw [group, group, squeeze_append, squeeze_append, squeeze_append, hopening, hclosing]
  cases parts with
  | nil => rfl
  | cons part parts =>
    rw [lines, List.map_cons, lines, squeeze_append, squeeze_append, squeeze_newline,
      squeeze_further (d' + 1), if_neg (by simp), if_neg (by simp), squeeze_newline]
    rfl

theorem squeeze_member {name : String} (hname : squeeze (quoted name) = quoted name)
    (value : Bytes) : squeeze (l.member name value) = compact.member name (squeeze value) := by
  have hcolon : squeeze l.colon = compact.colon := by cases l <;> rfl
  rw [member, member, squeeze_append, squeeze_append, hname, hcolon]

end Json.Layout

open Json

/-! ## The export -/

variable {l : Layout} {d : Nat}

theorem AgeEntry.squeeze_objectText (e : AgeEntry) (d' : Nat) :
    squeeze (e.objectText l d) = e.objectText .compact d' := by
  rw [objectText, Layout.squeeze_group .object d', List.map_cons, List.map_singleton,
    Layout.squeeze_member rfl, Layout.squeeze_member rfl, Decimal.squeeze_bytes,
    Decimal.squeeze_bytes, objectText]

namespace YearSpan

theorem squeeze_arrayText (s : YearSpan) (d' : Nat) :
    squeeze (s.arrayText l d) = s.arrayText .compact d' := by
  have hparts : (s.entries.map (AgeEntry.objectText l (d + 1))).map squeeze =
      s.entries.map (AgeEntry.objectText .compact (d' + 1)) := by
    rw [List.map_map]
    exact List.map_congr_left fun e _ => e.squeeze_objectText (d' + 1)
  rw [arrayText, Layout.squeeze_group .list d', hparts, arrayText]

/-- The export in any layout, without spaces and newlines; of the compact text nothing is lost. -/
theorem squeeze_exportText (s : YearSpan) :
    squeeze (s.exportText l) = s.exportText .compact := by
  have hbounds : (s.boundTexts l).map squeeze = s.boundTexts .compact := by
    rw [boundTexts, List.map_cons, List.map_singleton, Layout.squeeze_member rfl,
      Layout.squeeze_member rfl, Decimal.squeeze_bytes, Decimal.squeeze_bytes, boundTexts]
  rw [exportText, Layout.squeeze_group .object 0, List.map_append, List.map_cons, List.map_singleton,
    Layout.squeeze_member rfl, Layout.squeeze_member rfl, hbounds, s.squeeze_arrayText 1,
    exportText]
  rfl

variable {sink : Sink}

/-- **The compact export is the indented one without spaces and newlines.** A sink with enough room
gets the indented export and nothing else; deleting each space and each newline from that gives the
text that the export has in the compact layout. -/
theorem writeExport_squeezed (s : YearSpan) (hf : sink.Fair) (hroom : sink.room = none) :
    ∃ written, Sink.observe s.writeExport sink =
        ⟨none, sink.held.toList ++ written, sink.flushes⟩ ∧
      squeeze written = s.exportJson .compact := by
  have hfits : ∀ bs, sink.fits bs = true := fun bs => by rw [Sink.fits, hroom]
  have hcompact : s.exportJson .compact = s.exportText .compact :=
    s.placed_serializeExport.toBytes
  refine ⟨s.exportText .indented ++ [0x0A], ?_, ?_⟩
  · rw [s.observe_writeExport hf, if_pos (hfits _), Sink.fitting_of_fits (hfits _)]
  · rw [squeeze_append, squeeze_exportText, hcompact]
    exact List.append_nil _

/-- Two years, and none, on a sink that takes three bytes a call and interrupts every other one. -/
theorem writeExport_squeezed_around_zero :
    let sink : Sink := { rules := { chunk := some 3, interrupt := 2 } }
    let written (s : YearSpan) := (Sink.observe s.writeExport sink).held
    sink.Fair ∧ sink.room = none ∧
      squeeze (written ⟨-1, 1⟩) =
        Text.bytes "\x7b\"tool\":\"ages\",\"birth_year\":-1,\"current_year\":1,\"entries\":" ++
        Text.bytes "[\x7b\"year\":-1,\"age\":0\x7d,\x7b\"year\":0,\"age\":1\x7d]\x7d" ∧
      squeeze (written ⟨0, 0⟩) =
        Text.bytes "\x7b\"tool\":\"ages\",\"birth_year\":0,\"current_year\":0,\"entries\":[]\x7d" := by
  intro sink written
  have hf : sink.Fair := ⟨by decide, by decide, by rintro e ⟨⟩⟩
  obtain ⟨two, htwo, hcompact⟩ := writeExport_squeezed ⟨-1, 1⟩ hf rfl
  obtain ⟨empty, hnone, hempty⟩ := writeExport_squeezed ⟨0, 0⟩ hf rfl
  refine ⟨hf, rfl, ?_, ?_⟩
  · rw [show written ⟨-1, 1⟩ = _ from congrArg Observation.held htwo]
    exact hcompact.trans (by decide +kernel)
  · rw [show written ⟨0, 0⟩ = _ from congrArg Observation.held hnone]
    exact hempty.trans (by decide +kernel)

end YearSpan
end AgeReport
