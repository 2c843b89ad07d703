import AgeReport.Proofs.Json.Grammar

/-!
# Reading and skipping numbers of any form

A number is passed over whatever its sign, its fraction, its exponent and its size. It is read as an
integer only if it is the text of one: a fraction, an exponent, digits beyond 64 bits and `-0` all
end in a floating-point number or in a fault, which no field takes.

Results:
* `NumberText.skipOpening_eq`: any number is passed over.
* `readNumber_eq_integer_iff`: the numbers that are read as integers, and as which.
* `NumberText.takes_of_readInteger`, `IntegerType.Takes.readInteger_eq`: the numbers that are read for
  a field.
-/

namespace AgeReport.Json

open Decimal Numeral

variable {bs rest left fraction exponent v sp : Bytes} {b : UInt8} {cs : List Char} {k : Int}
  {n : Nat}

/-! ## What stands behind digits -/

theorem ended_append_exponent (he : ExponentText exponent) (h : Delimited rest) :
    Ended (exponent ++ rest) := by
  cases he with
  | none => exact h.ended
  | mark he hsign hcs =>
    rintro b ⟨⟩
    rcases he with rfl | rfl <;> decide

theorem ended_append_fraction (hf : FractionText fraction) (h : Ended rest) :
    Ended (fraction ++ rest) := by
  cases hf with
  | none => exact h
  | point hcs =>
    rintro b ⟨⟩
    decide

/-! ## Skipping -/

theorem skipExponent_cons (b : UInt8) (bs : Bytes) :
    skipExponent (b :: bs) =
      if b = 0x2B ∨ b = 0x2D then skipExponentValue bs else skipExponentValue (b :: bs) := by
  unfold skipExponent
  split <;> simp_all

theorem skipExponentValue_digits (hcs : IsDigits cs) (h : Ended rest) :
    skipExponentValue (Text.encode cs ++ rest) = .ok rest := by
  have hdigits := skipDigits_encode hcs.2 h
  obtain ⟨d, ds, hd, hdigit⟩ := exists_encode_of_isDigits hcs
  rw [hd, List.cons_append] at hdigits ⊢
  have htail : skipDigits (d :: (ds ++ rest)) = skipDigits (ds ++ rest) :=
    List.dropWhile_cons_of_pos hdigit
  rw [skipExponentValue, if_pos hdigit, ← htail, hdigits]

theorem skipOptionalExponent_text (he : ExponentText exponent) (h : Delimited rest) :
    skipOptionalExponent (exponent ++ rest) = .ok rest := by
  cases he with
  | none =>
    cases rest with
    | nil => rfl
    | cons b bs => exact if_neg (by simp [h.head.2.2])
  | @mark e sign cs he hsign hcs =>
    have hmark : isExponentMark e = true := by rcases he with rfl | rfl <;> rfl
    have hvalue := skipExponentValue_digits hcs h.ended
    rw [List.cons_append, List.append_assoc, skipOptionalExponent, if_pos hmark]
    rcases hsign with rfl | rfl | rfl
    · obtain ⟨d, ds, hd, hdigit⟩ := exists_encode_of_isDigits hcs
      rw [hd, List.cons_append] at hvalue
      have hplus : d ≠ 0x2B := ne_of_isDigitByte hdigit (by decide)
      have hminus : d ≠ 0x2D := ne_of_isDigitByte hdigit (by decide)
      rw [List.nil_append, hd, List.cons_append, skipExponent_cons, if_neg (by simp [hplus, hminus])]
      exact hvalue
    · exact hvalue
    · exact hvalue

theorem skipOptionalFraction_text (hf : FractionText fraction) (he : ExponentText exponent)
    (h : Delimited rest) : skipOptionalFraction (fraction ++ (exponent ++ rest)) = .ok rest := by
  have hexponent := skipOptionalExponent_text he h
  cases hf with
  | none =>
    rw [List.nil_append]
    cases he with
    | none => exact skipOptionalFraction_of_delimited h
    | mark he _ _ =>
      rw [List.cons_append] at hexponent ⊢
      rw [skipOptionalFraction, if_neg (by rcases he with rfl | rfl <;> decide)]
      exact hexponent
  | @point cs hcs =>
    have hdigits := skipDigits_encode hcs.2 (ended_append_exponent he h)
    obtain ⟨d, ds, hd, hdigit⟩ := exists_encode_of_isDigits hcs
    rw [hd, List.cons_append] at hdigits
    have htail : skipDigits (d :: (ds ++ (exponent ++ rest))) =
        skipDigits (ds ++ (exponent ++ rest)) := List.dropWhile_cons_of_pos hdigit
    rw [List.cons_append, hd, List.cons_append, skipOptionalFraction, if_pos rfl, skipFraction,
      if_pos hdigit, ← htail, hdigits]
    exact hexponent

/-- What follows the sign of a number is passed over. -/
theorem skipNumber_text (hcs : WholePart cs) (hf : FractionText fraction)
    (he : ExponentText exponent) (h : Delimited rest) :
    skipNumber (Text.encode cs ++ (fraction ++ (exponent ++ rest))) = .ok rest := by
  rw [skipNumber_whole hcs (ended_append_fraction hf (ended_append_exponent he h))]
  exact skipOptionalFraction_text hf he h

/-- Any number is passed over. -/
theorem NumberText.skipOpening_eq (hv : NumberText v) (h : Delimited rest) :
    skipOpening (v ++ rest) = .ok (.scalar rest) := by
  cases hv with
  | @intro negative cs fraction exponent hcs hf he =>
    have hnumber := skipNumber_text hcs hf he h
    rw [List.append_assoc, List.append_assoc, List.append_assoc]
    cases negative with
    | true =>
      rw [minus, if_pos rfl, List.singleton_append, skipOpening]
      simp only [hnumber]
      rfl
    | false =>
      obtain ⟨d, ds, hd, hdigit⟩ := exists_encode_of_isDigits hcs.digits
      rw [hd, List.cons_append] at hnumber
      have hne : ∀ c, isDigitByte c = false → d ≠ c := fun c => ne_of_isDigitByte hdigit
      rw [minus, if_neg Bool.false_ne_true, List.nil_append, hd, List.cons_append, skipOpening,
        if_neg (hne _ (by decide)), if_neg (hne _ (by decide)), if_neg (hne _ (by decide)),
        if_neg (hne _ (by decide)), if_pos hdigit, hnumber]
      rfl

theorem NumberText.begun (hv : NumberText v) : Begun v := by
  cases hv with
  | @intro negative cs fraction exponent hcs hf he =>
    cases negative with
    | true => exact begun_cons (by decide) _
    | false =>
      obtain ⟨d, ds, hd, hdigit⟩ := exists_encode_of_isDigits hcs.digits
      rw [minus, if_neg Bool.false_ne_true, List.nil_append, hd]
      exact begun_of_isDigitByte hdigit _

/-! ## Numbers that are not integers -/

/-- An answer that is no integer. -/
def Floats (x : Except Fault (Number × Bytes)) : Prop :=
  ∀ k left, x ≠ .ok (.integer k, left)

theorem floats_error (f : Fault) : Floats (.error f) := by
  intro k left h
  cases h

theorem floats_float (f : Float) (bs : Bytes) : Floats (.ok (.float f, bs)) := by
  intro k left h
  cases h

variable {positive : Bool}

theorem floats_endFloat (significand : Nat) (e : Int) (bs : Bytes) :
    Floats (endFloat positive significand e bs) := by
  unfold endFloat
  split
  · exact floats_float _ bs
  · exact floats_error _

theorem floats_endHuge (significand : Nat) (upward : Bool) (bs : Bytes) :
    Floats (endHuge positive significand upward bs) := by
  unfold endHuge
  split
  · exact floats_error _
  · exact floats_float _ _

theorem floats_readExponentDigits (significand : Nat) (start : Int) (upward : Bool) (e : Nat)
    (bs : Bytes) : Floats (readExponentDigits positive significand start upward e bs) := by
  induction bs generalizing e with
  | nil => exact floats_endFloat _ _ _
  | cons b bs ih =>
    unfold readExponentDigits
    split
    · exact floats_endFloat _ _ _
    · split
      · exact floats_endHuge _ _ _
      · exact ih _

theorem floats_readExponentValue (significand : Nat) (start : Int) (upward : Bool) (bs : Bytes) :
    Floats (readExponentValue positive significand start upward bs) := by
  cases bs with
  | nil => exact floats_error _
  | cons b bs =>
    rw [readExponentValue]
    split
    · exact floats_error _
    · exact floats_readExponentDigits _ _ _ _ _

theorem floats_readExponent (significand : Nat) (start : Int) (bs : Bytes) :
    Floats (readExponent positive significand start bs) := by
  unfold readExponent
  split <;> exact floats_readExponentValue _ _ _ _

theorem floats_endFraction (significand : Nat) (e : Int) (bs : Bytes) :
    Floats (endFraction positive significand e bs) := by
  cases bs with
  | nil => exact floats_endFloat _ _ _
  | cons b bs =>
    rw [endFraction]
    split
    · exact floats_readExponent _ _ _
    · exact floats_endFloat _ _ _

theorem floats_readFractionDigits (significand : Nat) (e : Int) (started : Bool) (bs : Bytes) :
    Floats (readFractionDigits positive significand e started bs) := by
  induction bs generalizing significand e started with
  | nil =>
    unfold readFractionDigits
    split
    · exact floats_endFraction _ _ _
    · exact floats_error _
  | cons b bs ih =>
    unfold readFractionDigits
    split
    · split
      · exact floats_endFraction _ _ _
      · exact floats_error _
    · split
      · exact floats_endFraction _ _ _
      · exact ih _ _ _

theorem floats_readLongWhole (significand : Nat) (e : Int) (bs : Bytes) :
    Floats (readLongWhole positive significand e bs) := by
  induction bs generalizing e with
  | nil => exact floats_endFloat _ _ _
  | cons b bs ih =>
    unfold readLongWhole
    split
    · exact ih _
    · split
      · exact floats_readFractionDigits _ _ _ _
      · exact floats_endFraction _ _ _

/-- Digits that do not fit are gathered no further. -/
theorem floats_readWhole {m : Nat} (hcs : ∀ c ∈ cs, (digit? c).isSome) (hm : m < wordLimit)
    (hlong : wordLimit ≤ valueFrom m cs) :
    Floats (readWhole positive m (Text.encode cs ++ rest)) := by
  induction cs generalizing m with
  | nil => exact absurd hlong (Nat.not_le.2 hm)
  | cons c cs ih =>
    obtain ⟨d, hd⟩ := Option.isSome_iff_exists.1 (hcs c List.mem_cons_self)
    obtain ⟨b, hb, hdigit⟩ := encode_digit hd cs
    rw [valueFrom_cons, ← (digit?_eq_some hd).1] at hlong
    rw [hb, List.cons_append, readWhole, hdigit]
    dsimp only
    split
    · exact floats_readLongWhole _ _ _
    · rename_i hfits
      exact ih (fun c hc => hcs c (List.mem_cons_of_mem _ hc)) (Nat.not_le.1 hfits) hlong

theorem digitByte?_lt {d : Nat} (h : digitByte? b = some d) : d < 10 := by
  unfold digitByte? at h
  split at h
  · rename_i hb
    have hhi := UInt8.le_iff_toNat_le.1 hb.2
    cases h
    simp only [UInt8.reduceToNat] at hhi
    omega
  · cases h

theorem floats_readNumber (hcs : WholePart cs) (hlong : wordLimit ≤ valueFrom 0 cs) :
    Floats (readNumber positive (Text.encode cs ++ rest)) := by
  rcases hcs.eq_zero_or with rfl | ⟨b, d, ds, hb, hdigit, hds, hvalue⟩
  · exact absurd hlong (by decide)
  · have hsmall : d + 1 < wordLimit := Nat.lt_trans (digitByte?_lt hdigit) (by decide)
    rw [hb, List.cons_append]
    simp only [readNumber, hdigit]
    exact floats_readWhole hds hsmall (by omega)

/-! ## Numbers that are integers -/

/-- Only a number without fraction and exponent ends as an integer. -/
theorem endWhole_eq_integer_iff (hf : FractionText fraction) (he : ExponentText exponent)
    (h : Delimited rest) :
    endWhole positive n (fraction ++ (exponent ++ rest)) = .ok (.integer k, left) ↔
      fraction = [] ∧ exponent = [] ∧ wholeNumber positive n = .integer k ∧ left = rest := by
  cases hf with
  | point hcs =>
    have hpoint : ∀ bs, endWhole positive n (0x2E :: bs) =
        readFractionDigits positive n 0 false bs := fun bs => rfl
    have hfloats : ∀ bs, readFractionDigits positive n 0 false bs ≠ .ok (.integer k, left) :=
      fun bs => floats_readFractionDigits _ _ _ bs k left
    simp [hpoint, hfloats]
  | none =>
    cases he with
    | @mark e sign cs hmark hsign hcs =>
      have hpoint : e ≠ 0x2E := by rcases hmark with rfl | rfl <;> decide
      have hmark : isExponentMark e = true := by rcases hmark with rfl | rfl <;> rfl
      have hfloats : Floats (readExponent positive n 0 (sign ++ Text.encode cs ++ rest)) :=
        floats_readExponent _ _ _
      simp only [List.nil_append, List.cons_append, endWhole, hpoint, hmark, ↓reduceIte]
      simpa using hfloats k left
    | none =>
      rw [List.nil_append, List.nil_append, endWhole_of_delimited h]
      simp [eq_comm]

theorem wholeNumber_eq_integer_iff (negative : Bool) :
    wholeNumber (!negative) n = .integer k ↔
      (negative = true → n ≠ 0 ∧ n ≤ signedLimit) ∧ k = signed negative n := by
  cases negative with
  | false => simp [wholeNumber, signed, eq_comm]
  | true =>
    by_cases hn : n = 0 ∨ signedLimit < n
    · have hno : ¬ (n ≠ 0 ∧ n ≤ signedLimit) := by omega
      simp [wholeNumber, hn, hno]
    · have hyes : n ≠ 0 ∧ n ≤ signedLimit := by omega
      rw [wholeNumber, Bool.not_true, if_neg Bool.false_ne_true, if_neg hn]
      simp [signed, hyes, eq_comm]

/-- **The numbers that are read as integers**: those without fraction and exponent that fit, and
not `-0`. -/
theorem readNumber_eq_integer_iff (negative : Bool) (hcs : WholePart cs)
    (hf : FractionText fraction) (he : ExponentText exponent) (h : Delimited rest) :
    readNumber (!negative) (Text.encode cs ++ (fraction ++ (exponent ++ rest))) =
        .ok (.integer k, left) ↔
      valueFrom 0 cs < wordLimit ∧ fraction = [] ∧ exponent = [] ∧
        ((negative = true → valueFrom 0 cs ≠ 0 ∧ valueFrom 0 cs ≤ signedLimit) ∧
          k = signed negative (valueFrom 0 cs)) ∧ left = rest := by
  rcases Nat.lt_or_ge (valueFrom 0 cs) wordLimit with hv | hv
  · rw [readNumber_whole hcs hv (ended_append_fraction hf (ended_append_exponent he h)),
      endWhole_eq_integer_iff hf he h, wholeNumber_eq_integer_iff]
    simp only [hv, true_and]
  · simp only [floats_readNumber hcs hv k left, Nat.not_lt.2 hv, false_and]

/-! ## Values of fields -/

/-- A field takes the texts of the integers within its bounds. -/
structure IntegerType.Takes (t : IntegerType) (v : Bytes) (a : Int) : Prop where
  integer : IntegerText v a
  within : t.bounds.contains a = true

/-- Bounds within which any integer is read as such. -/
structure IntegerType.Narrow (t : IntegerType) : Prop where
  least : -signedLimit ≤ t.bounds.least
  greatest : t.bounds.greatest < wordLimit

theorem narrow_year : IntegerType.year.Narrow :=
  ⟨by decide, by decide⟩

theorem narrow_age : IntegerType.age.Narrow :=
  ⟨by decide, by decide⟩

variable {t : IntegerType} {a : Int}

theorem accept_eq_ok_iff {number : Number} :
    t.accept number bs = .ok (a, left) ↔
      number = .integer a ∧ t.bounds.contains a = true ∧ left = bs := by
  cases number with
  | float f => simp [IntegerType.accept]
  | integer v =>
    rw [IntegerType.accept]
    split <;> grind

theorem WholePart.pos_of_ne (h : WholePart cs) (hne : cs ≠ ['0']) : 0 < valueFrom 0 cs := by
  obtain ⟨b, d, ds, -, -, -, hvalue⟩ := h.eq_zero_or.resolve_left hne
  have hle := le_valueFrom (d + 1) ds
  omega

/-- A number begins with a minus sign or a digit. -/
theorem readInteger_number (negative : Bool) (hcs : WholePart cs) (hsp : Blank sp) (bs : Bytes) :
    readInteger t (sp ++ (minus negative ++ (Text.encode cs ++ bs))) = (do
      let (number, rest) ← readNumber (!negative) (Text.encode cs ++ bs)
      t.accept number rest) := by
  obtain ⟨d, ds, hd, hdigit⟩ := exists_encode_of_isDigits hcs.digits
  cases negative with
  | true =>
    rw [minus, if_pos rfl, List.singleton_append, readInteger,
      skipSpace_append_cons hsp (by decide)]
    rfl
  | false =>
    obtain ⟨_, ⟨⟩, hspace, -⟩ := begun_of_isDigitByte hdigit []
    rw [minus, if_neg Bool.false_ne_true, List.nil_append, hd, List.cons_append, readInteger,
      skipSpace_append_cons hsp hspace]
    dsimp only
    rw [if_neg (ne_of_isDigitByte hdigit (by decide)), if_pos hdigit]
    rfl

/-- A number is read for a field only if the field takes it. -/
theorem NumberText.takes_of_readInteger (hv : NumberText v) (hsp : Blank sp) (h : Delimited rest)
    (hread : readInteger t (sp ++ (v ++ rest)) = .ok (a, left)) : t.Takes v a ∧ left = rest := by
  cases hv with
  | @intro negative cs fraction exponent hcs hf he =>
    rw [List.append_assoc, List.append_assoc, List.append_assoc, readInteger_number negative hcs hsp]
      at hread
    obtain ⟨⟨number, left'⟩, hnumber, haccept⟩ := of_bind_eq_ok hread
    obtain ⟨rfl, hbounds, rfl⟩ := accept_eq_ok_iff.1 haccept
    obtain ⟨-, rfl, rfl, ⟨hzero, rfl⟩, rfl⟩ :=
      (readNumber_eq_integer_iff negative hcs hf he h).1 hnumber
    refine ⟨⟨?_, hbounds⟩, rfl⟩
    rw [List.append_nil, List.append_nil]
    refine .intro negative hcs fun hnegative heq => ?_
    subst heq
    exact (hzero hnegative).1 rfl

/-- What a field takes is read for it. -/
theorem IntegerType.Takes.readInteger_eq (hv : t.Takes v a) (ht : t.Narrow) (hsp : Blank sp)
    (h : Delimited rest) : readInteger t (sp ++ (v ++ rest)) = .ok (a, rest) := by
  obtain ⟨hinteger, hbounds⟩ := hv
  have hrange := Bounds.contains_iff.1 hbounds
  have hleast := ht.least
  have hgreatest := ht.greatest
  cases hinteger with
  | @intro negative cs hcs hzero =>
    have hfits : valueFrom 0 cs < wordLimit ∧
        (negative = true → valueFrom 0 cs ≠ 0 ∧ valueFrom 0 cs ≤ signedLimit) := by
      cases negative with
      | false =>
        simp only [signed, Bool.false_eq_true, ↓reduceIte] at hrange
        exact ⟨by omega, by simp⟩
      | true =>
        have hpos := hcs.pos_of_ne (hzero rfl)
        simp only [signed, ↓reduceIte, signedLimit, wordLimit] at hrange hleast ⊢
        omega
    have hnumber := (readNumber_eq_integer_iff negative hcs .none .none h).2
      ⟨hfits.1, rfl, rfl, ⟨hfits.2, rfl⟩, rfl⟩
    simp only [List.nil_append] at hnumber
    rw [List.append_assoc, readInteger_number negative hcs hsp, hnumber, ok_bind]
    exact accept_eq_ok_iff.2 ⟨rfl, hbounds, rfl⟩

end AgeReport.Json
