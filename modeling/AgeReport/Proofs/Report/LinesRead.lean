import AgeReport.Proofs.Report.LineWords

/-!
# Reading the report in lines back

The report in lines, written out, and what is found in it: a line for each entry, and in each line
the entry itself. The entries of a span that is not empty begin with its birth year, and their
number then gives its end; so the report determines the span.

Results:
* `linesText_eq`: the text, written out.
* `splitOn_lines`, `readLines?_linesText`: its lines, and the entries read from them.
* `eq_of_entries_eq`: a span that is not empty from its entries.
* `lines_read_back`: the same of what is written.
-/

namespace AgeReport

/-! ## The text, written out -/

/-- The line of a year and an age. -/
def lineLayout (year : Int) (age : Nat) : Bytes :=
  Text.bytes "In " ++ Text.bytes (toString year) ++ Text.bytes " I was " ++
    Text.bytes (toString age) ++ Text.bytes " years old.\n"

namespace YearSpan

theorem lineLayout_eq (s : YearSpan) {k : Nat} (hk : k < s.length.toNat) :
    lineLayout (s.birthYear.toInt + k) k = (s.entry k).line ++ [0x0A] := by
  have hend : Text.bytes " years old.\n" = Text.bytes " years old." ++ [0x0A] := rfl
  have hage : Text.bytes (toString (k : Int)) = Text.bytes (toString k) := rfl
  rw [lineLayout, AgeEntry.line, s.toInt_year_entry hk, s.toInt_age_entry hk, Decimal.bytes_eq,
    Decimal.bytes_eq, hage, hend, List.append_assoc _ _ [0x0A]]

/-- A line for each year of the span. -/
theorem linesText_eq (s : YearSpan) : s.linesText =
    (List.range s.length.toNat).flatMap fun k : Nat =>
      lineLayout (s.birthYear.toInt + k) k := by
  rw [linesText, entries_eq, List.flatMap_map, List.flatMap_def, List.flatMap_def]
  exact congrArg List.flatten
    (List.map_congr_left fun k hk => (s.lineLayout_eq (List.mem_range.1 hk)).symm)

end YearSpan

/-! ## What is found in it -/

/-- Reads an entry from each line; the lines are what stands before the newlines. -/
def readLines? (bs : Bytes) : Option (List AgeEntry) :=
  (bs.splitOn 0x0A).dropLast.mapM readLine?

/-- Splitting at the newlines gives the sentences, and nothing behind the last newline. -/
theorem splitOn_lines (es : List AgeEntry) :
    (es.flatMap fun e => e.line ++ [0x0A]).splitOn 0x0A = es.map AgeEntry.line ++ [[]] := by
  induction es with
  | nil => exact List.splitOn_nil 0x0A
  | cons e es ih =>
    rw [List.flatMap_cons, List.append_assoc, List.singleton_append,
      List.splitOn_append_cons_self_of_not_mem e.newline_notMem_line, ih]
    rfl

theorem mapM_readLine?_map_line (es : List AgeEntry) :
    (es.map AgeEntry.line).mapM readLine? = some es := by
  induction es with
  | nil => rfl
  | cons e es ih =>
    rw [List.map_cons, List.mapM_cons, readLine?_line, ih]
    rfl

theorem count_newline_line (e : AgeEntry) : (e.line ++ [0x0A]).count 0x0A = 1 := by
  rw [List.count_append, List.count_eq_zero.2 e.newline_notMem_line]
  rfl

namespace YearSpan

variable {s t : YearSpan}

/-- The entries are read from the lines. -/
theorem readLines?_linesText (s : YearSpan) : readLines? s.linesText = some s.entries := by
  rw [readLines?, linesText, splitOn_lines, List.dropLast_concat, mapM_readLine?_map_line]

theorem count_newline_linesText (s : YearSpan) : s.linesText.count 0x0A = s.length.toNat := by
  have hone : (List.count 0x0A ∘ fun e : AgeEntry => e.line ++ [0x0A]) = fun _ => 1 :=
    funext count_newline_line
  rw [linesText, List.count_flatMap, hone, List.map_const', List.sum_replicate_nat, length_entries,
    Nat.mul_one]

/-- A span that is not empty is determined by its entries: the first has the birth year, and their
number is the distance of the bounds. -/
theorem eq_of_entries_eq (hs : s.birthYear < s.currentYear) (ht : t.birthYear < t.currentYear)
    (h : s.entries = t.entries) : s = t := by
  have hlength : s.length.toNat = t.length.toNat := by
    rw [← length_entries, ← length_entries, h]
  rw [Int32.lt_iff_toInt_lt] at hs ht
  rw [toNat_length, toNat_length] at hlength
  have hfirst : s.entry 0 = t.entry 0 := by
    have hpos : 0 < s.length.toNat ∧ 0 < t.length.toNat := by
      rw [toNat_length, toNat_length]
      omega
    have hget : s.entries[0]? = t.entries[0]? := by rw [h]
    rw [entries_eq, entries_eq, List.getElem?_map, List.getElem?_map, List.getElem?_range hpos.1,
      List.getElem?_range hpos.2] at hget
    exact Option.some.inj hget
  have hbirth : s.birthYear = t.birthYear := by
    have hyear := congrArg AgeEntry.year hfirst
    change s.birthYear + 0 = t.birthYear + 0 at hyear
    rwa [Int32.add_zero, Int32.add_zero] at hyear
  have hcurrent : s.currentYear = t.currentYear := by
    apply Int32.toInt.inj
    rw [hbirth] at hlength hs
    omega
  obtain ⟨birth, current⟩ := s
  obtain ⟨birth', current'⟩ := t
  obtain rfl : birth = birth' := hbirth
  obtain rfl : current = current' := hcurrent
  rfl

/-- **The report in lines is read back.** It has a line for each year, in order, with the year and
the age in plain decimal; splitting it at the newlines and reading the two numbers of each line gives
the entries of the span; it has as many newlines as the span has years; and it determines the span,
unless that is empty. -/
theorem lines_read_back (s : YearSpan) :
    let report := fun t : YearSpan => Sink.observe (t.writeReport .text) {}
    (report s).failure? = none ∧
    (report s).held = ((List.range s.length.toNat).flatMap fun k : Nat =>
      lineLayout (s.birthYear.toInt + k) k) ∧
    (report s).held.splitOn 0x0A = s.entries.map AgeEntry.line ++ [[]] ∧
    readLines? (report s).held = some s.entries ∧
    (report s).held.count 0x0A = s.length.toNat ∧
    ∀ t : YearSpan, s.birthYear < s.currentYear → t.birthYear < t.currentYear →
      (report t).held = (report s).held → t = s := by
  intro report
  have hheld : ∀ t : YearSpan, (report t).held = t.linesText := fun t =>
    t.held_observe_writeReport .text
  have hok : (report s).failure? = none := by
    change (Sink.observe (s.writeReport .text) {}).failure? = none
    rw [s.observe_writeReport .text Sink.fair_default]
    rfl
  simp only [hheld]
  refine ⟨hok, s.linesText_eq, splitOn_lines s.entries, s.readLines?_linesText,
    s.count_newline_linesText, ?_⟩
  intro t hs ht heq
  have hentries : some t.entries = some s.entries := by
    rw [← t.readLines?_linesText, ← s.readLines?_linesText, heq]
  exact eq_of_entries_eq ht hs (Option.some.inj hentries)

/-- The year before the year 0 and the year 0 itself: no other span that is not empty has this
report. -/
theorem lines_read_back_around_zero :
    let text := Text.bytes "In -1 I was 0 years old.\nIn 0 I was 1 years old.\n"
    (Sink.observe (YearSpan.writeReport ⟨-1, 1⟩ .text) {}).held = text ∧
    readLines? text = some [⟨-1, 0⟩, ⟨0, 1⟩] ∧
    ∀ t : YearSpan, t.birthYear < t.currentYear →
      (Sink.observe (t.writeReport .text) {}).held = text → t = ⟨-1, 1⟩ := by
  intro text
  obtain ⟨-, hheld, -, hread, -, hunique⟩ := lines_read_back ⟨-1, 1⟩
  have htext : (Sink.observe (YearSpan.writeReport ⟨-1, 1⟩ .text) {}).held = text :=
    hheld.trans (by decide +kernel)
  rw [htext] at hread hunique
  exact ⟨htext, hread.trans (by decide +kernel), fun t ht heq => hunique t (by decide) ht heq⟩

end YearSpan
end AgeReport
