import AgeReport.Proofs.Report.RoundTrip

/-!
# Reading a span from any object

The text that a span is written as is one of many that it is read from: an object with both bounds
among its members, in any order, laid out and spelled in any way, and with any further members. What
is read is decided by the values under the two names.

* `text_written`: the text of a span is an object of the grammar.
* `decodeSpan_text_iff`: which objects are read, and as which span.
* `decodeSpan_object`: the same with what follows from it for order, layout and further members, and
  for bounds that are missing, repeated or out of range.
-/

namespace AgeReport

open Json

/-! ## What is written -/

namespace YearSpan

/-- The text of a span as an object. -/
def written (l : Layout) (s : YearSpan) : ObjectText :=
  .written l 0 s.plainMembers

theorem text_written (l : Layout) (s : YearSpan) : (s.written l).text = s.json l := by
  have hjson : s.json l = s.objectText l := s.placed_serialize.toBytes
  have hobject : (s.written l).object = s.objectText l := object_written l 0 s.plainMembers
  rw [hjson, ← hobject, ObjectText.text]
  exact List.append_nil _

end YearSpan

/-! ## What is read -/

/-- A single member has the name, and its value is the text of the integer `n`. -/
def Json.ObjectText.Holds (o : ObjectText) (name : String) (n : Int) : Prop :=
  ∃ v, o.values name = [v] ∧ IntegerText v n

namespace YearSpan

variable {s : YearSpan} {o : ObjectText}

theorem readSpan_eq_ok_iff {bs rest : Bytes} :
    readSpan bs = .ok (s, rest) ↔
      ∃ a b, readRecord .span bs = .ok ((a, b), rest) ∧ s = ⟨Int32.ofInt a, Int32.ofInt b⟩ := by
  constructor
  · intro h
    obtain ⟨⟨⟨a, b⟩, left⟩, hread, hspan⟩ := of_map_eq_ok h
    cases hspan
    exact ⟨a, b, hread, rfl⟩
  · rintro ⟨a, b, hread, rfl⟩
    rw [readSpan, hread]
    rfl

/-- **Which objects are read as a span**: those with both bounds, each once and as the text of an
integer. -/
theorem decodeSpan_text_iff :
    decodeSpan o.text = .ok s ↔
      o.Holds "birth_year" s.birthYear.toInt ∧ o.Holds "current_year" s.currentYear.toInt := by
  rw [decodeSpan, readAll_eq_ok_iff]
  constructor
  · rintro ⟨rest, hread, -⟩
    obtain ⟨a, b, hrecord, rfl⟩ := readSpan_eq_ok_iff.1 hread
    obtain ⟨⟨⟨v, hv, ha⟩, ⟨w, hw, hb⟩⟩, -⟩ := (readRecord_eq_ok_iff sound_span o o.before.2 _).1 hrecord
    refine ⟨⟨v, hv, ?_⟩, ⟨w, hw, ?_⟩⟩
    · rw [Numeral.toInt_ofInt_of_contains ha.within]
      exact ha.integer
    · rw [Numeral.toInt_ofInt_of_contains hb.within]
      exact hb.integer
  · rintro ⟨⟨v, hv, ha⟩, ⟨w, hw, hb⟩⟩
    refine ⟨o.after.1, readSpan_eq_ok_iff.2 ⟨s.birthYear.toInt, s.currentYear.toInt, ?_, ?_⟩,
      skipSpace_of_blank o.after.2⟩
    · exact (readRecord_eq_ok_iff sound_span o o.before.2 _).2
        ⟨⟨⟨v, hv, ha, Numeral.contains_toInt _⟩, ⟨w, hw, hb, Numeral.contains_toInt _⟩⟩, rfl⟩
    · rw [Int32.ofInt_toInt, Int32.ofInt_toInt]

/-- A value that stands under a name and is no year. -/
theorem not_holds_of_mem {name : String} {v : Bytes} {n : Int} (hv : v ∈ o.values name)
    (hn : IntegerText v n) (hrange : n < -2147483648 ∨ 2147483647 < n) (y : Int32) :
    ¬ o.Holds name y.toInt := by
  rintro ⟨w, hw, hy⟩
  rw [hw, List.mem_singleton] at hv
  subst hv
  have hyear := Numeral.Bounds.contains_iff.1 (Numeral.contains_toInt y)
  rw [hn.unique hy] at hrange
  simp only [Numeral.Bounds.year] at hyear
  omega

theorem holds_of_perm {o' : ObjectText} {name : String} {n : Int}
    (h : (o.values name).Perm (o'.values name)) (hn : o.Holds name n) : o'.Holds name n := by
  obtain ⟨v, hv, hn⟩ := hn
  rw [hv] at h
  exact ⟨v, List.singleton_perm.1 h |>.symm, hn⟩

theorem decodeSpan_json (l : Layout) (s : YearSpan) : decodeSpan (s.json l) = .ok s := by
  have hbirth : (s.written l).values "birth_year" = [Decimal.bytes s.birthYear.toInt] := rfl
  have hcurrent : (s.written l).values "current_year" = [Decimal.bytes s.currentYear.toInt] := rfl
  rw [← text_written, decodeSpan_text_iff]
  exact ⟨⟨_, hbirth, integerText_bytes _⟩, ⟨_, hcurrent, integerText_bytes _⟩⟩

theorem exists_decodeSpan_iff :
    (∃ r, decodeSpan o.text = .ok r) ↔
      (∃ b, o.Holds "birth_year" b ∧ -2147483648 ≤ b ∧ b ≤ 2147483647) ∧
        ∃ c, o.Holds "current_year" c ∧ -2147483648 ≤ c ∧ c ≤ 2147483647 := by
  constructor
  · rintro ⟨r, hr⟩
    obtain ⟨hbirth, hcurrent⟩ := decodeSpan_text_iff.1 hr
    have hrange : ∀ y : Int32, -2147483648 ≤ y.toInt ∧ y.toInt ≤ 2147483647 :=
      fun y => Numeral.Bounds.contains_iff.1 (Numeral.contains_toInt y)
    exact ⟨⟨_, hbirth, hrange _⟩, ⟨_, hcurrent, hrange _⟩⟩
  · rintro ⟨⟨b, hbirth, hb⟩, ⟨c, hcurrent, hc⟩⟩
    refine ⟨⟨Int32.ofInt b, Int32.ofInt c⟩, decodeSpan_text_iff.2 ⟨?_, ?_⟩⟩
    · rwa [Numeral.toInt_ofInt_of_contains (Numeral.Bounds.contains_iff.2 hb)]
    · rwa [Numeral.toInt_ofInt_of_contains (Numeral.Bounds.contains_iff.2 hc)]

theorem toOption_eq_some_iff {α ε : Type} {x : Except ε α} {a : α} :
    x.toOption = some a ↔ x = .ok a := by
  cases x <;> simp [Except.toOption]

/-- Order, layout and further members do not matter. -/
theorem decodeSpan_congr {o' : ObjectText}
    (h : ∀ name ∈ ["birth_year", "current_year"], (o.values name).Perm (o'.values name)) :
    (decodeSpan o.text).toOption = (decodeSpan o'.text).toOption := by
  have hbirth := h "birth_year" (by simp)
  have hcurrent := h "current_year" (by simp)
  refine Option.ext fun s => ?_
  rw [toOption_eq_some_iff, toOption_eq_some_iff, decodeSpan_text_iff, decodeSpan_text_iff]
  constructor
  · rintro ⟨hb, hc⟩
    exact ⟨holds_of_perm hbirth hb, holds_of_perm hcurrent hc⟩
  · rintro ⟨hb, hc⟩
    exact ⟨holds_of_perm hbirth.symm hb, holds_of_perm hcurrent.symm hc⟩

/-- A name that is missing or repeated, or holds no year, makes the object be refused. -/
theorem decodeSpan_of_unfit {name : String} (hname : name ∈ ["birth_year", "current_year"])
    (h : (o.values name).length ≠ 1 ∨
      ∃ v ∈ o.values name, ∃ n, IntegerText v n ∧ (n < -2147483648 ∨ 2147483647 < n)) :
    ∃ f, decodeSpan o.text = .error f := by
  cases hread : decodeSpan o.text with
  | error f => exact ⟨f, rfl⟩
  | ok s =>
    obtain ⟨hbirth, hcurrent⟩ := decodeSpan_text_iff.1 hread
    obtain ⟨y, hy⟩ : ∃ y : Int32, o.Holds name y.toInt := by
      simp only [List.mem_cons, List.not_mem_nil, or_false] at hname
      rcases hname with rfl | rfl
      · exact ⟨_, hbirth⟩
      · exact ⟨_, hcurrent⟩
    rcases h with hlength | ⟨v, hv, n, hn, hrange⟩
    · obtain ⟨v, hv, -⟩ := hy
      rw [hv] at hlength
      exact absurd rfl hlength
    · exact absurd hy (not_holds_of_mem hv hn hrange y)

/-- **Reading a span.** The compact text of a span is read back as it. Any object is read exactly if
each of the two names stands in it once, with the text of an integer of 32 bits, and then as the
span of these two. So objects with the same values under the two names are read alike, whatever their
order, their layout and their other members; and an object is refused if one of the names is missing
or repeated, or if an integer out of range stands under it. -/
theorem decodeSpan_object (s : YearSpan) (o : ObjectText) :
    decodeSpan (s.json .compact) = .ok s ∧
    ((∃ r, decodeSpan o.text = .ok r) ↔
      (∃ b, o.Holds "birth_year" b ∧ -2147483648 ≤ b ∧ b ≤ 2147483647) ∧
        ∃ c, o.Holds "current_year" c ∧ -2147483648 ≤ c ∧ c ≤ 2147483647) ∧
    (decodeSpan o.text = .ok s ↔
      o.Holds "birth_year" s.birthYear.toInt ∧ o.Holds "current_year" s.currentYear.toInt) ∧
    (∀ o' : ObjectText, (∀ name ∈ ["birth_year", "current_year"],
        (o.values name).Perm (o'.values name)) →
      (decodeSpan o.text).toOption = (decodeSpan o'.text).toOption) ∧
    ∀ name ∈ ["birth_year", "current_year"],
      ((o.values name).length ≠ 1 ∨
        ∃ v ∈ o.values name, ∃ n, IntegerText v n ∧ (n < -2147483648 ∨ 2147483647 < n)) →
      ∃ f, decodeSpan o.text = .error f := by
  refine ⟨s.decodeSpan_json .compact, exists_decodeSpan_iff, decodeSpan_text_iff, ?_, ?_⟩
  · intro o' h
    exact decodeSpan_congr h
  · intro name hname h
    exact decodeSpan_of_unfit hname h

theorem wellFormed_nested : WellFormed .value (Text.bytes "[[null],\x7b\x7d]") := by
  have hnull : WellFormed .value (Text.bytes "null") := .word (by simp)
  have hempty : WellFormed .value (Text.bytes "\x7b\x7d") := wellFormed_object .compact 0 []
  have hinner : WellFormed .value (Text.bytes "[null]") :=
    wellFormed_list (l := .compact) (d := 0) (List.forall_mem_singleton.2 hnull)
  exact wellFormed_list (l := .compact) (d := 0)
    (List.forall_mem_cons.2 ⟨hinner, List.forall_mem_singleton.2 hempty⟩)

theorem plainName_current_year : PlainName "current_year" := by
  decide

theorem unescapes_birth_year :
    Unescapes (Text.bytes "b\\u0069rth_year") "birth_year".toList := by
  have hplain : PlainName "rth_year" := by decide
  exact .char (c := 'b') (by decide) (.unit (u := Text.bytes "0069") (.intro rfl rfl rfl rfl)
    (by decide) (unescapes_of_isPlainChar hplain))

/-- An object with the bounds the other way round, with blanks, with an escape in a name and with a
nested value between. -/
def shuffled : ObjectText where
  before := ⟨[0x0A], blank_lineEnd⟩
  members := [
    PlainMember.toMember .compact 0
      ⟨"current_year", Decimal.bytes 7, plainName_current_year, wellFormed_bytes 7⟩,
    PlainMember.toMember .compact 0 ⟨"x", _, by decide, wellFormed_nested⟩,
    { before := ⟨[0x0A], blank_lineEnd⟩
      spelling := Text.bytes "b\\u0069rth_year"
      name := "birth_year"
      beforeColon := ⟨[], blank_nil⟩
      afterColon := ⟨[0x20], blank_space⟩
      value := Decimal.bytes (-5)
      after := ⟨[], blank_nil⟩
      spells := unescapes_birth_year
      wellFormed := wellFormed_bytes (-5) }]
  last := ⟨[0x20], blank_space⟩
  after := ⟨[], blank_nil⟩

theorem text_shuffled : shuffled.text = Text.bytes
    "\n\x7b\"current_year\":7,\"x\":[[null],\x7b\x7d],\n\"b\\u0069rth_year\": -5 \x7d" := by
  have hseven : Decimal.bytes 7 = [0x37] := by
    change Text.encode (Decimal.digits 7) = _
    rw [Decimal.digits_of_lt (by decide)]
    decide
  have hfive : Decimal.bytes (-5) = [0x2D, 0x35] := by
    change Text.encode ('-' :: Decimal.digits 5) = _
    rw [Decimal.digits_of_lt (by decide)]
    decide
  simp only [shuffled, ObjectText.text, ObjectText.object, List.map_cons, List.map_nil, Member.text,
    Member.behindName, PlainMember.toMember, hseven, hfive]
  decide

/-- The same values in another text, and each of them twice. -/
theorem decodeSpan_object_shuffled :
    decodeSpan (Text.bytes
      "\n\x7b\"current_year\":7,\"x\":[[null],\x7b\x7d],\n\"b\\u0069rth_year\": -5 \x7d") =
      .ok ⟨-5, 7⟩ ∧
    (decodeSpan shuffled.text).toOption = (decodeSpan (written .compact ⟨-5, 7⟩).text).toOption ∧
    ∃ f, decodeSpan { shuffled with members := shuffled.members ++ shuffled.members }.text =
      .error f := by
  have hbirth : shuffled.values "birth_year" = [Decimal.bytes (-5)] := rfl
  have hcurrent : shuffled.values "current_year" = [Decimal.bytes 7] := rfl
  obtain ⟨-, -, hread, hlike, -⟩ := decodeSpan_object ⟨-5, 7⟩ shuffled
  obtain ⟨-, -, -, -, hunfit⟩ :=
    decodeSpan_object ⟨-5, 7⟩ { shuffled with members := shuffled.members ++ shuffled.members }
  rw [← text_shuffled]
  refine ⟨hread.2 ⟨⟨_, hbirth, integerText_bytes (-5)⟩, ⟨_, hcurrent, integerText_bytes 7⟩⟩,
    hlike _ ?_, hunfit "birth_year" (by simp) (.inl (by decide))⟩
  simp only [List.mem_cons, List.not_mem_nil, or_false]
  rintro name (rfl | rfl)
  · exact .of_eq rfl
  · exact .of_eq rfl

end YearSpan
end AgeReport
