import AgeReport.Proofs.Report.Delivery

/-!
# The layout of the array and of the export

Every byte of the two JSON outputs, written out: the lines of each year in the array, and the export
as the bounds of the span in front of the same array, two spaces deeper.

An array or an object one level deeper is the same text with two more spaces behind each newline.
This holds part by part, so the array inside the export need not be written out again.

Results:
* `Decimal.bytes_eq`: numbers are in plain decimal.
* `deeper_group`: parts between brackets, one level deeper.
* `arrayText_eq`, `exportText_eq`: the texts, written out.
* `writeJson_writeExport_layout`: what a sink with enough room holds.
-/

namespace AgeReport

/-! ## Numbers -/

namespace Decimal

theorem digitChar_eq {d : Nat} (h : d < 10) : digitChar d = Nat.digitChar d := by
  have : ∀ d : Fin 10, digitChar d.1 = Nat.digitChar d.1 := by decide
  exact this ⟨d, h⟩

theorem digits_eq_toDigits (n : Nat) : digits n = Nat.toDigits 10 n := by
  induction n using digits.induct with
  | case1 n hn => rw [digits_of_lt hn, Nat.toDigits_of_lt_base hn, digitChar_eq hn]
  | case2 n hn ih =>
    have hle : 10 ≤ n := Nat.not_lt.1 hn
    rw [digits_of_le hle, Nat.toDigits_of_base_le (by decide) hle, ih,
      digitChar_eq (Nat.mod_lt n (by decide))]

theorem ofInt_eq (n : Int) : ofInt n = (toString n).toList := by
  cases n with
  | ofNat n =>
    change digits n = n.repr.toList
    rw [Nat.toList_repr, digits_eq_toDigits]
  | negSucc n =>
    change '-' :: digits (n + 1) = ("-" ++ (n + 1).repr).toList
    rw [String.toList_append, Nat.toList_repr, digits_eq_toDigits]
    rfl

/-- Numbers are written in plain decimal. -/
theorem bytes_eq (n : Int) : bytes n = Text.bytes (toString n) :=
  congrArg Text.encode (ofInt_eq n)

/-- A decimal text has digits in it and, if at all, the minus sign. -/
theorem notMem_bytes {b : UInt8} (hdigit : isDigitByte b = false) (hsign : b ≠ 0x2D) (n : Int) :
    b ∉ bytes n := by
  have hdigits : ∀ n : Nat, b ∉ Text.encode (digits n) := fun n hmem =>
    ne_of_isDigitByte (isDigitByte_of_mem_encode (fun _ => isDigit_of_mem_digits) b hmem)
      hdigit rfl
  cases n with
  | ofNat n => exact hdigits n
  | negSucc n =>
    change b ∉ Text.encode ('-' :: digits (n + 1))
    rw [Text.encode_cons_of_lt (by decide), List.mem_cons]
    exact not_or.2 ⟨hsign, hdigits (n + 1)⟩

theorem newline_notMem_bytes (n : Int) : 0x0A ∉ bytes n :=
  notMem_bytes (by decide) (by decide) n

end Decimal

/-! ## One level deeper -/

/-- The text with two spaces inserted behind each newline. -/
def deeper (bs : Bytes) : Bytes :=
  bs.flatMap fun b => if b = 0x0A then [0x0A, 0x20, 0x20] else [b]

theorem deeper_append (bs cs : Bytes) : deeper (bs ++ cs) = deeper bs ++ deeper cs :=
  List.flatMap_append

theorem deeper_of_notMem {bs : Bytes} (h : 0x0A ∉ bs) : deeper bs = bs := by
  induction bs with
  | nil => rfl
  | cons b bs ih =>
    obtain ⟨hb, hbs⟩ := List.ne_and_not_mem_of_not_mem_cons h
    have hstep : deeper (b :: bs) = [b] ++ deeper bs := by
      rw [deeper, List.flatMap_cons, if_neg hb.symm, deeper]
    rw [hstep, ih hbs, List.singleton_append]

namespace Json.Layout

variable {d : Nat} {part : Bytes} {parts : List Bytes}

theorem deeper_newline : deeper (indented.newline d) = indented.newline (d + 1) := by
  have hspaces : (0x0A : UInt8) ∉ List.replicate (2 * d) 0x20 := by simp
  calc deeper (0x0A :: List.replicate (2 * d) 0x20)
    _ = [0x0A, 0x20, 0x20] ++ deeper (List.replicate (2 * d) 0x20) := rfl
    _ = [0x0A, 0x20, 0x20] ++ List.replicate (2 * d) 0x20 := by rw [deeper_of_notMem hspaces]
    _ = indented.newline (d + 1) := rfl

theorem deeper_further :
    deeper (indented.further d parts) = indented.further (d + 1) (parts.map deeper) := by
  induction parts with
  | nil => rfl
  | cons part parts ih =>
    rw [further, List.map_cons, further, deeper_append, deeper_append, deeper_append, ih,
      deeper_newline]
    rfl

/-- **Parts between brackets, one level deeper.** -/
theorem deeper_group (b : Bracket) :
    deeper (indented.group b d parts) = indented.group b (d + 1) (parts.map deeper) := by
  have hopening : deeper [b.opening] = [b.opening] := by cases b <;> rfl
  have hclosing : deeper [b.closing] = [b.closing] := by cases b <;> rfl
  rw [group, group, deeper_append, deeper_append, deeper_append, hopening, hclosing]
  cases parts with
  | nil => rfl
  | cons part parts =>
    rw [lines, List.map_cons, lines, deeper_append, deeper_append, deeper_newline, deeper_further,
      if_neg (by simp), if_neg (by simp), deeper_newline]

theorem deeper_member {name : String} (hname : 0x0A ∉ Text.bytes name) (value : Bytes) :
    deeper (indented.member name value) = indented.member name (deeper value) := by
  have hquoted : 0x0A ∉ quoted name := by simp [quoted, hname]
  rw [member, member, deeper_append, deeper_append, deeper_of_notMem hquoted]
  rfl

end Json.Layout

open Json

theorem AgeEntry.deeper_objectText (e : AgeEntry) (d : Nat) :
    deeper (e.objectText .indented d) = e.objectText .indented (d + 1) := by
  rw [objectText, Layout.deeper_group, List.map_cons, List.map_singleton,
    Layout.deeper_member (by decide), Layout.deeper_member (by decide),
    deeper_of_notMem (Decimal.newline_notMem_bytes _),
    deeper_of_notMem (Decimal.newline_notMem_bytes _), objectText]

namespace YearSpan

theorem deeper_arrayText (s : YearSpan) (d : Nat) :
    deeper (s.arrayText .indented d) = s.arrayText .indented (d + 1) := by
  have hparts : (s.entries.map (AgeEntry.objectText .indented (d + 1))).map deeper =
      s.entries.map (AgeEntry.objectText .indented (d + 1 + 1)) := by
    rw [List.map_map]
    exact List.map_congr_left fun e _ => e.deeper_objectText (d + 1)
  rw [arrayText, Layout.deeper_group, hparts, arrayText]

/-! ## The texts, written out -/

/-- The lines of an entry in the array alone. -/
def objectLayout (year : Int) (age : Nat) : Bytes :=
  Text.bytes "\n  \x7b\n    \"year\": " ++ Text.bytes (toString year) ++
    Text.bytes ",\n    \"age\": " ++ Text.bytes (toString age) ++ Text.bytes "\n  \x7d"

/-- The array alone. -/
def arrayLayout (s : YearSpan) : Bytes :=
  if s.length.toNat = 0 then Text.bytes "[]"
  else
    Text.bytes "[" ++ (Text.bytes ",").intercalate ((List.range s.length.toNat).map fun k : Nat =>
      objectLayout (s.birthYear.toInt + k) k) ++ Text.bytes "\n]"

/-- What stands in the export before the array. -/
def headLayout (birthYear currentYear : Int) : Bytes :=
  Text.bytes "\x7b\n  \"tool\": \"ages\",\n  \"birth_year\": " ++
    Text.bytes (toString birthYear) ++ Text.bytes ",\n  \"current_year\": " ++
    Text.bytes (toString currentYear) ++ Text.bytes ",\n  \"entries\": "

theorem objectLayout_eq (s : YearSpan) {k : Nat} (hk : k < s.length.toNat) :
    objectLayout (s.birthYear.toInt + k) k =
      Layout.indented.newline 1 ++ (s.entry k).objectText .indented 1 := by
  have hopen : Text.bytes "\n  \x7b\n    \"year\": " = Layout.indented.newline 1 ++ [0x7B] ++
      Layout.indented.newline 2 ++ quoted "year" ++ Layout.indented.colon := rfl
  have hnext : Text.bytes ",\n    \"age\": " =
      [0x2C] ++ Layout.indented.newline 2 ++ quoted "age" ++ Layout.indented.colon := rfl
  have hclose : Text.bytes "\n  \x7d" = Layout.indented.newline 1 ++ [0x7D] := rfl
  have hyear : Decimal.bytes (s.entry k).year.toInt =
      Text.bytes (toString (s.birthYear.toInt + k)) := by
    rw [s.toInt_year_entry hk, Decimal.bytes_eq]
  have hage : Decimal.bytes (s.entry k).age.toInt = Text.bytes (toString k) := by
    rw [s.toInt_age_entry hk, Decimal.bytes_eq]
    rfl
  rw [objectLayout, AgeEntry.objectText, hyear, hage, hopen, hnext, hclose]
  simp only [Layout.group, Layout.lines, Layout.further, Layout.member, Bracket.opening,
    Bracket.closing, List.append_assoc, List.nil_append]
  rfl

/-- The array alone, written out. -/
theorem arrayText_eq (s : YearSpan) : s.arrayText .indented 0 = s.arrayLayout := by
  have hlines : Layout.indented.lines 1 (s.entries.map (AgeEntry.objectText .indented 1)) =
      (Text.bytes ",").intercalate ((List.range s.length.toNat).map fun k : Nat =>
        objectLayout (s.birthYear.toInt + k) k) := by
    rw [Layout.lines_eq_intercalate, entries_eq, List.map_map, List.map_map]
    exact congrArg _ (List.map_congr_left fun k hk =>
      (s.objectLayout_eq (List.mem_range.1 hk)).symm)
  have hnil : s.entries.map (AgeEntry.objectText .indented 1) = [] ↔ s.length.toNat = 0 := by
    rw [List.map_eq_nil_iff, ← List.length_eq_zero_iff, length_entries]
  rw [arrayText, arrayLayout, Layout.group, hlines]
  by_cases hn : s.length.toNat = 0
  · rw [if_pos (hnil.2 hn), if_pos hn, hn]
    rfl
  · rw [if_neg (mt hnil.1 hn), if_neg hn, List.append_assoc]
    rfl

/-- The export without the newline at its end, written out. -/
theorem exportText_eq (s : YearSpan) : s.exportText .indented =
    headLayout s.birthYear.toInt s.currentYear.toInt ++ deeper s.arrayLayout ++
      Text.bytes "\n\x7d" := by
  have htool : Text.bytes "\x7b\n  \"tool\": \"ages\",\n  \"birth_year\": " =
      [0x7B] ++ Layout.indented.newline 1 ++ Layout.indented.member "tool" (quoted toolName) ++
        [0x2C] ++ Layout.indented.newline 1 ++ quoted "birth_year" ++ Layout.indented.colon := rfl
  have hcurrent : Text.bytes ",\n  \"current_year\": " = [0x2C] ++ Layout.indented.newline 1 ++
      quoted "current_year" ++ Layout.indented.colon := rfl
  have hentries : Text.bytes ",\n  \"entries\": " = [0x2C] ++ Layout.indented.newline 1 ++
      quoted "entries" ++ Layout.indented.colon := rfl
  have hend : Text.bytes "\n\x7d" = Layout.indented.newline 0 ++ [0x7D] := rfl
  have harray : s.arrayText .indented 1 = deeper s.arrayLayout := by
    rw [← arrayText_eq, deeper_arrayText]
  rw [exportText, boundTexts, headLayout, harray, htool, hcurrent, hentries, hend,
    Decimal.bytes_eq, Decimal.bytes_eq]
  simp only [Layout.group, Layout.lines, Layout.further, Layout.member, Bracket.opening,
    Bracket.closing, List.append_assoc, List.cons_append, List.nil_append]
  simp

variable {sink : Sink}

/-- **The layout of the array and of the export.** The array is `[]` without years, and otherwise
has four lines for each year. The export names the tool and the bounds, and holds the same array two
spaces deeper. A sink with enough room holds exactly this. -/
theorem writeJson_writeExport_layout (s : YearSpan) (hf : sink.Fair) (hroom : sink.room = none) :
    Sink.observe s.writeJson sink = ⟨none, sink.held.toList ++ s.arrayLayout, sink.flushes⟩ ∧
      Sink.observe s.writeExport sink = ⟨none,
        sink.held.toList ++ (headLayout s.birthYear.toInt s.currentYear.toInt ++
          deeper s.arrayLayout ++ Text.bytes "\n\x7d\n"), sink.flushes⟩ := by
  have hfits : ∀ bs, sink.fits bs = true := fun bs => by rw [Sink.fits, hroom]
  have hend : Text.bytes "\n\x7d\n" = Text.bytes "\n\x7d" ++ [0x0A] := rfl
  rw [s.observe_writeJson hf, s.observe_writeExport hf, if_pos (hfits _), if_pos (hfits _),
    Sink.fitting_of_fits (hfits _), Sink.fitting_of_fits (hfits _), arrayText_eq, exportText_eq,
    hend, List.append_assoc]
  exact ⟨rfl, rfl⟩

/-- The year before the year 0, and the year 0 itself, on a sink that takes three bytes a call. -/
theorem writeJson_writeExport_layout_around_zero :
    let sink : Sink := { rules := { chunk := some 3 } }
    let s : YearSpan := ⟨-1, 1⟩
    sink.Fair ∧ sink.room = none ∧
      (Sink.observe s.writeJson sink).held =
        Text.bytes "[\n  \x7b\n    \"year\": -1,\n    \"age\": 0\n  \x7d," ++
        Text.bytes "\n  \x7b\n    \"year\": 0,\n    \"age\": 1\n  \x7d\n]" ∧
      (Sink.observe s.writeExport sink).held =
        Text.bytes "\x7b\n  \"tool\": \"ages\",\n  \"birth_year\": -1,\n" ++
        Text.bytes "  \"current_year\": 1,\n  \"entries\": [" ++
        Text.bytes "\n    \x7b\n      \"year\": -1,\n      \"age\": 0\n    \x7d," ++
        Text.bytes "\n    \x7b\n      \"year\": 0,\n      \"age\": 1\n    \x7d" ++
        Text.bytes "\n  ]\n\x7d\n" := by
  intro sink s
  have hf : sink.Fair := ⟨by decide, by decide, by rintro e ⟨⟩⟩
  obtain ⟨harray, hexport⟩ := s.writeJson_writeExport_layout hf rfl
  rw [harray, hexport]
  exact ⟨hf, rfl, by decide +kernel, by decide +kernel⟩

end YearSpan
end AgeReport
