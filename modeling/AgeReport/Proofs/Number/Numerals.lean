import AgeReport.Number.Numeral
import AgeReport.Settings.Basic

/-!
# Which texts are numerals

A numeral is an optional sign and one or more decimal digits, with any number of leading zeros; its
value is an integer without bounds. Reading checks the bounds after every digit; where zero lies
within them, that comes to checking them once, at the end, since the value only moves away from
zero.

Results:
* `read_eq_ok_iff`: what is read are exactly the numerals whose value lies within the bounds.
* `readYear_eq_ok_iff`: the same for the text of a year with blanks around it.
-/

namespace AgeReport.Numeral

open Decimal

/-- The integer of the given size and sign. -/
def signed (negative : Bool) (n : Nat) : Int :=
  if negative then -n else n

/-- One or more decimal digits. -/
def IsDigits (cs : List Char) : Prop :=
  cs ≠ [] ∧ ∀ c ∈ cs, (digit? c).isSome

/-- The text `cs` spells the integer `v`: an optional sign, and then digits. -/
inductive Spells : List Char → Int → Prop
  | plain {ds : List Char} (h : IsDigits ds) : Spells ds (valueFrom 0 ds)
  | plus {ds : List Char} (h : IsDigits ds) : Spells ('+' :: ds) (valueFrom 0 ds)
  | minus {ds : List Char} (h : IsDigits ds) : Spells ('-' :: ds) (-(valueFrom 0 ds))

variable {b : Bounds} {negative : Bool} {m n : Nat} {c : Char} {cs : List Char} {v : Int}

theorem isDigits_digits (n : Nat) : IsDigits (digits n) :=
  ⟨digits_ne_nil n, fun _ => isDigit_of_mem_digits⟩

/-- Digits begin with the byte of a digit. -/
theorem exists_encode_of_isDigits {ds : List Char} (h : IsDigits ds) :
    ∃ d bs, Text.encode ds = d :: bs ∧ isDigitByte d = true := by
  obtain ⟨c, ds, rfl⟩ := List.exists_cons_of_ne_nil h.1
  obtain ⟨n, hn⟩ := Option.isSome_iff_exists.1 (h.2 c List.mem_cons_self)
  obtain ⟨d, hd, hdigit⟩ := encode_digit hn ds
  exact ⟨d, _, hd, by rw [isDigitByte, hdigit, Option.isSome_some]⟩

/-- The decimal text of an integer spells it. -/
theorem spells_ofInt (v : Int) : Spells (Decimal.ofInt v) v := by
  cases v with
  | ofNat n =>
    have h := Spells.plain (isDigits_digits n)
    rwa [valueFrom_digits] at h
  | negSucc n =>
    have h := Spells.minus (isDigits_digits (n + 1))
    rwa [valueFrom_digits] at h

theorem append_signed (negative : Bool) (m d : Nat) :
    append negative (signed negative m) d = signed negative (m * 10 + d) := by
  cases negative with
  | false =>
    simp only [append, signed, Bool.false_eq_true, ↓reduceIte]
    omega
  | true =>
    simp only [append, signed, ↓reduceIte]
    omega

/-- What lies between zero and an integer within the bounds is within them. -/
theorem contains_of_le (hb : b.contains 0 = true) (hle : m ≤ n)
    (h : b.contains (signed negative n) = true) : b.contains (signed negative m) = true := by
  rw [Bounds.contains_iff] at hb
  rw [Bounds.contains_iff] at h ⊢
  cases negative <;> simp only [signed, Bool.false_eq_true, ↓reduceIte] at h ⊢ <;> omega

theorem accumulate_eq_ok_iff (hb : b.contains 0 = true)
    (hm : b.contains (signed negative m) = true) :
    accumulate b negative (signed negative m) cs = .ok v ↔
      (∀ c ∈ cs, (digit? c).isSome) ∧ v = signed negative (valueFrom m cs) ∧
        b.contains v = true := by
  induction cs generalizing m with
  | nil =>
    rw [accumulate_nil]
    constructor
    · rintro ⟨⟩
      exact ⟨by simp, rfl, hm⟩
    · rintro ⟨-, rfl, -⟩
      rfl
  | cons c cs ih =>
    cases hd : digit? c with
    | none => simp [accumulate, hd]
    | some d =>
      have hvalue : valueFrom m (c :: cs) = valueFrom (m * 10 + d) cs := by
        rw [valueFrom_cons, (digit?_eq_some hd).1]
      rw [hvalue]
      cases hw : b.contains (signed negative (m * 10 + d)) with
      | true =>
        rw [← append_signed] at hw
        rw [accumulate_cons hd hw, append_signed, ih (append_signed .. ▸ hw)]
        simp [hd]
      | false =>
        -- the reading stops here, and no further digit brings the value back
        constructor
        · intro h
          rw [accumulate, hd] at h
          dsimp only at h
          rw [append_signed] at h
          split at h
          · cases h
          split at h
          · cases h
          rename_i hlow hhigh
          rw [Bounds.contains_iff.2 ⟨Int.not_lt.1 hlow, Int.not_lt.1 hhigh⟩] at hw
          cases hw
        · rintro ⟨-, rfl, hv⟩
          rw [contains_of_le hb (le_valueFrom _ cs) hv] at hw
          cases hw

theorem readDigits_eq_ok_iff (hb : b.contains 0 = true) :
    readDigits b negative cs = .ok v ↔
      IsDigits cs ∧ v = signed negative (valueFrom 0 cs) ∧ b.contains v = true := by
  have hzero : signed negative 0 = 0 := by cases negative <;> rfl
  rw [readDigits]
  split
  · rename_i h
    simp [IsDigits, h]
  · rename_i h
    have hacc : accumulate b negative (signed negative 0) cs = .ok v ↔ _ :=
      accumulate_eq_ok_iff hb (by rwa [hzero])
    rw [hzero] at hacc
    rw [hacc, IsDigits, and_assoc]
    simp [h]

theorem ne_of_isDigits {d : Char} (hd : digit? d = none) (h : IsDigits (c :: cs)) : c ≠ d := by
  rintro rfl
  have := h.2 c List.mem_cons_self
  simp [hd] at this

/-- What is read are exactly the numerals whose value lies within the bounds. -/
theorem read_eq_ok_iff (hb : b.contains 0 = true) :
    read b cs = .ok v ↔ Spells cs v ∧ b.contains v = true := by
  constructor
  · intro h
    cases cs with
    | nil => cases h
    | cons c cs =>
      rw [read] at h
      split at h
      · rename_i hc
        obtain ⟨hdigits, rfl, hv⟩ := (readDigits_eq_ok_iff hb).1 h
        exact ⟨hc ▸ .plus hdigits, hv⟩
      split at h
      · rename_i hc
        obtain ⟨hdigits, rfl, hv⟩ := (readDigits_eq_ok_iff hb).1 h
        exact ⟨hc ▸ .minus hdigits, hv⟩
      · obtain ⟨hdigits, rfl, hv⟩ := (readDigits_eq_ok_iff hb).1 h
        exact ⟨.plain hdigits, hv⟩
  · rintro ⟨hspells, hv⟩
    cases hspells with
    | plain h =>
      cases cs with
      | nil => exact absurd rfl h.1
      | cons c cs =>
        rw [read, if_neg (ne_of_isDigits (by decide) h), if_neg (ne_of_isDigits (by decide) h)]
        exact (readDigits_eq_ok_iff hb).2 ⟨h, rfl, hv⟩
    | plus h => exact (readDigits_eq_ok_iff hb).2 ⟨h, rfl, hv⟩
    | minus h => exact (readDigits_eq_ok_iff hb).2 ⟨h, rfl, hv⟩

/-! ## Years -/

theorem toInt_ofInt_of_contains (h : Bounds.year.contains v = true) :
    (Int32.ofInt v).toInt = v := by
  rw [Bounds.contains_iff] at h
  exact Int32.toInt_ofInt_of_le h.1 (by have := h.2; simp only [Bounds.year] at this; omega)

theorem contains_toInt (y : Int32) : Bounds.year.contains y.toInt = true := by
  have hlo := Int32.le_toInt y
  have hhi := Int32.toInt_lt y
  rw [Bounds.contains_iff]
  simp only [Bounds.year]
  omega

theorem contains_toInt64 (a : Int64) : Bounds.age.contains a.toInt = true := by
  have hlo := Int64.le_toInt a
  have hhi := Int64.toInt_lt a
  rw [Bounds.contains_iff]
  simp only [Bounds.age]
  omega

theorem contains_age_of_year (h : Bounds.year.contains v = true) :
    Bounds.age.contains v = true := by
  rw [Bounds.contains_iff] at h ⊢
  simp only [Bounds.year, Bounds.age] at h ⊢
  omega

end AgeReport.Numeral

namespace AgeReport

/-- A text of the environment gives a year exactly if it spells it, blanks around it apart. -/
theorem readYear_eq_ok_iff {raw : String} {y : Int32} :
    readYear raw = .ok y ↔ Numeral.Spells (Text.trim raw.toList) y.toInt := by
  rw [readYear]
  constructor
  · intro h
    cases hread : Numeral.read .year (Text.trim raw.toList) with
    | error e =>
      rw [hread] at h
      cases h
    | ok v =>
      rw [hread] at h
      cases h
      obtain ⟨hspells, hv⟩ := (Numeral.read_eq_ok_iff (by decide)).1 hread
      rwa [Numeral.toInt_ofInt_of_contains hv]
  · intro h
    rw [(Numeral.read_eq_ok_iff (by decide)).2 ⟨h, Numeral.contains_toInt y⟩]
    simp [Except.map]

end AgeReport
