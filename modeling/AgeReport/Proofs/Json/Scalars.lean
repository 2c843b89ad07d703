import AgeReport.Json.Parts
import AgeReport.Proofs.Number.Numerals

/-!
# Blanks and digits in JSON texts

Blanks and the digits of numbers, read from in front of any bytes that may follow them. A number only
shows its end by what stands behind it, so it is read back in front of bytes that do not go on with
it; a string and whatever ends with a bracket shows its end itself.

Results:
* `skipSpace_append`, `skipSpace_cons`: blanks.
* `readNumber_whole`, `skipNumber_whole`: the whole part of a number.
* `skipSpace_of_begun`: the blanks in front of a value.
-/

namespace AgeReport.Json

open Decimal

/-! ## Blanks -/

/-- Nothing but blanks. -/
def Blank (sp : Bytes) : Prop :=
  ∀ b ∈ sp, isSpace b = true

/-- Bytes that no value goes on with: none, or a blank, a comma or a closing bracket first. -/
def Delimited (rest : Bytes) : Prop :=
  ∀ b ∈ rest.head?, isSpace b = true ∨ b = 0x2C ∨ b = 0x5D ∨ b = 0x7D

variable {sp rest : Bytes} {b : UInt8}

theorem blank_nil : Blank [] := by
  simp [Blank]

theorem blank_append {sp' : Bytes} (h : Blank sp) (h' : Blank sp') : Blank (sp ++ sp') := by
  intro b hb
  rcases List.mem_append.1 hb with hb | hb
  · exact h b hb
  · exact h' b hb

theorem skipSpace_append (h : Blank sp) (rest : Bytes) : skipSpace (sp ++ rest) = skipSpace rest :=
  List.dropWhile_append_of_pos h

theorem skipSpace_cons (h : isSpace b = false) (bs : Bytes) : skipSpace (b :: bs) = b :: bs := by
  rw [skipSpace, List.dropWhile_cons_of_neg (by simp [h])]

theorem skipSpace_append_cons (hsp : Blank sp) (h : isSpace b = false) (bs : Bytes) :
    skipSpace (sp ++ b :: bs) = b :: bs := by
  rw [skipSpace_append hsp, skipSpace_cons h]

theorem delimited_cons (h : isSpace b = true ∨ b = 0x2C ∨ b = 0x5D ∨ b = 0x7D) (bs : Bytes) :
    Delimited (b :: bs) := by
  rintro c ⟨⟩
  exact h

theorem delimited_append (h : Blank sp) (hr : Delimited rest) : Delimited (sp ++ rest) := by
  cases sp with
  | nil => exact hr
  | cons b sp => exact delimited_cons (.inl (h b List.mem_cons_self)) _

theorem delimited_closing (bracket : Bracket) (bs : Bytes) : Delimited (bracket.closing :: bs) := by
  cases bracket with
  | list => exact delimited_cons (.inr (.inr (.inl rfl))) bs
  | object => exact delimited_cons (.inr (.inr (.inr rfl))) bs

/-- A byte behind a value is no part of a number. -/
theorem Delimited.head {bs : Bytes} (h : Delimited (b :: bs)) :
    digitByte? b = none ∧ b ≠ 0x2E ∧ isExponentMark b = false := by
  have hb := h b rfl
  simp only [isSpace, Bool.or_eq_true, beq_iff_eq] at hb
  rcases hb with (((rfl | rfl) | rfl) | rfl) | rfl | rfl | rfl <;> decide

/-! ## Numbers -/

theorem endWhole_of_delimited (h : Delimited rest) (positive : Bool) (v : Nat) :
    endWhole positive v rest = .ok (wholeNumber positive v, rest) := by
  cases rest with
  | nil => rfl
  | cons b bs =>
    obtain ⟨-, hpoint, hmark⟩ := h.head
    simp only [endWhole, hpoint, hmark, Bool.false_eq_true, ↓reduceIte]

/-- Digits in front of anything are gathered as long as their value fits. -/
theorem readWhole_encode {positive : Bool} {v : Nat} {cs : List Char}
    (hcs : ∀ c ∈ cs, (digit? c).isSome) (hv : valueFrom v cs < wordLimit) :
    readWhole positive v (Text.encode cs ++ rest) = readWhole positive (valueFrom v cs) rest := by
  induction cs generalizing v with
  | nil => rfl
  | cons c cs ih =>
    obtain ⟨d, hd⟩ := Option.isSome_iff_exists.1 (hcs c List.mem_cons_self)
    obtain ⟨b, hb, hdigit⟩ := encode_digit hd cs
    rw [valueFrom_cons, ← (digit?_eq_some hd).1] at hv
    -- the value only grows, so it fits after each digit if it does after the last
    have hle := le_valueFrom (v * 10 + d) cs
    rw [hb, List.cons_append, readWhole, hdigit]
    dsimp only
    rw [if_neg (by omega), ih (fun c hc => hcs c (List.mem_cons_of_mem _ hc)) hv, valueFrom_cons,
      (digit?_eq_some hd).1]

/-- The whole part of a number: digits, the first of which is a zero only if it stands alone. -/
structure WholePart (cs : List Char) : Prop where
  digits : Numeral.IsDigits cs
  alone : cs.head? = some '0' → cs = ['0']

/-- Bytes that do not begin with a digit. -/
def Ended (bs : Bytes) : Prop :=
  ∀ b ∈ bs.head?, digitByte? b = none

theorem Delimited.ended (h : Delimited rest) : Ended rest := by
  rintro b hb
  obtain ⟨bs, rfl⟩ := List.head?_eq_some_iff.1 hb
  exact h.head.1

theorem Ended.isDigitByte_eq {bs : Bytes} (h : Ended (b :: bs)) : isDigitByte b = false := by
  rw [isDigitByte, h b rfl, Option.isSome_none]

theorem wholePart_digits (n : Nat) : WholePart (digits n) := by
  refine ⟨Numeral.isDigits_digits n, fun hzero => ?_⟩
  rcases Nat.eq_zero_or_pos n with rfl | hpos
  · rw [digits_of_lt (by decide)]
    rfl
  · exact absurd hzero (head?_digits_ne hpos)

/-- A whole part is a zero, or it begins with another digit. -/
theorem WholePart.eq_zero_or {cs : List Char} (h : WholePart cs) :
    cs = ['0'] ∨ ∃ b d ds, Text.encode cs = b :: Text.encode ds ∧ digitByte? b = some (d + 1) ∧
      (∀ c ∈ ds, (digit? c).isSome) ∧ valueFrom (d + 1) ds = valueFrom 0 cs := by
  obtain ⟨c, ds, rfl⟩ := List.exists_cons_of_ne_nil h.digits.1
  obtain ⟨d, hd⟩ := Option.isSome_iff_exists.1 (h.digits.2 c List.mem_cons_self)
  obtain ⟨hdc, hlo, -⟩ := digit?_eq_some hd
  rcases Nat.eq_zero_or_pos d with rfl | hpos
  · have hc : c = '0' := Char.ext (UInt32.toNat.inj (show c.toNat = 48 by omega))
    exact .inl (h.alone (congrArg some hc))
  · obtain ⟨b, hb, hdigit⟩ := encode_digit hd ds
    obtain ⟨d, rfl⟩ : ∃ e, d = e + 1 := ⟨d - 1, by omega⟩
    refine .inr ⟨b, d, ds, hb, hdigit, fun c hc => h.digits.2 c (List.mem_cons_of_mem _ hc), ?_⟩
    rw [valueFrom_cons, ← hdc, Nat.zero_mul, Nat.zero_add]

theorem encode_zero : Text.encode ['0'] = [0x30] := by
  decide

/-- A number whose whole part fits is read up to its end. -/
theorem readNumber_whole {cs : List Char} (hcs : WholePart cs) (hv : valueFrom 0 cs < wordLimit)
    (h : Ended rest) (positive : Bool) :
    readNumber positive (Text.encode cs ++ rest) = endWhole positive (valueFrom 0 cs) rest := by
  rcases hcs.eq_zero_or with rfl | ⟨b, d, ds, hb, hdigit, hds, hvalue⟩
  · rw [encode_zero, List.singleton_append]
    cases rest with
    | nil => rfl
    | cons c bs =>
      change (if isDigitByte c = true then _ else endWhole positive 0 (c :: bs)) = _
      rw [if_neg (by simp [h.isDigitByte_eq])]
      rfl
  · rw [hb, List.cons_append]
    simp only [readNumber, hdigit]
    rw [readWhole_encode hds (by omega), hvalue]
    cases rest with
    | nil => rfl
    | cons c bs => rw [readWhole, h c rfl]

theorem skipDigits_encode {cs : List Char} (hcs : ∀ c ∈ cs, (digit? c).isSome)
    (h : Ended rest) : skipDigits (Text.encode cs ++ rest) = rest := by
  rw [skipDigits, List.dropWhile_append_of_pos (isDigitByte_of_mem_encode hcs)]
  cases rest with
  | nil => rfl
  | cons b bs => exact List.dropWhile_cons_of_neg (by simp [h.isDigitByte_eq])

theorem skipOptionalFraction_of_delimited (h : Delimited rest) :
    skipOptionalFraction rest = .ok rest := by
  cases rest with
  | nil => rfl
  | cons b bs =>
    obtain ⟨-, hpoint, hmark⟩ := h.head
    rw [skipOptionalFraction, if_neg hpoint, skipOptionalExponent, if_neg (by simp [hmark])]

/-- A whole part of any size is passed over. -/
theorem skipNumber_whole {cs : List Char} (hcs : WholePart cs) (h : Ended rest) :
    skipNumber (Text.encode cs ++ rest) = skipOptionalFraction rest := by
  rcases hcs.eq_zero_or with rfl | ⟨b, d, ds, hb, hdigit, hds, -⟩
  · rw [encode_zero, List.singleton_append]
    cases rest with
    | nil => rfl
    | cons c bs =>
      change (if isDigitByte c = true then _ else skipOptionalFraction (c :: bs)) = _
      rw [if_neg (by simp [h.isDigitByte_eq])]
  · rw [hb, List.cons_append]
    simp only [skipNumber, hdigit]
    rw [skipDigits_encode hds h]

/-! ## The beginning of a value -/

/-- A value begins with a byte that is neither blank nor a closing bracket. -/
def Begun (v : Bytes) : Prop :=
  ∃ b ∈ v.head?, isSpace b = false ∧ ∀ bracket : Bracket, b ≠ bracket.closing

theorem begun_cons (h : isSpace b = false ∧ b ≠ 0x5D ∧ b ≠ 0x7D) (bs : Bytes) :
    Begun (b :: bs) := by
  refine ⟨b, rfl, h.1, ?_⟩
  rintro (_ | _)
  · exact h.2.1
  · exact h.2.2

theorem begun_of_isDigitByte (h : isDigitByte b = true) (bs : Bytes) : Begun (b :: bs) := by
  have hne : ∀ c, isDigitByte c = false → b ≠ c := fun c => ne_of_isDigitByte h
  refine begun_cons ⟨?_, hne _ (by decide), hne _ (by decide)⟩ bs
  simp only [isSpace, Bool.or_eq_false_iff, beq_eq_false_iff_ne]
  exact ⟨⟨⟨hne _ (by decide), hne _ (by decide)⟩, hne _ (by decide)⟩, hne _ (by decide)⟩

theorem Begun.exists_cons {v : Bytes} (h : Begun v) :
    ∃ b bs, v = b :: bs ∧ isSpace b = false ∧ ∀ bracket : Bracket, b ≠ bracket.closing := by
  obtain ⟨b, hb, hspace, hclosing⟩ := h
  cases v with
  | nil => cases hb
  | cons c bs =>
    cases hb
    exact ⟨_, bs, rfl, hspace, hclosing⟩

theorem Begun.append {v : Bytes} (h : Begun v) (bs : Bytes) : Begun (v ++ bs) := by
  obtain ⟨b, v, rfl, hspace, hclosing⟩ := h.exists_cons
  exact ⟨b, rfl, hspace, hclosing⟩

/-- The blanks in front of a value are passed over, and nothing else. -/
theorem skipSpace_of_begun {v : Bytes} (h : Begun v) (hsp : Blank sp) (rest : Bytes) :
    skipSpace (sp ++ (v ++ rest)) = v ++ rest := by
  obtain ⟨b, bs, rfl, hspace, -⟩ := h.exists_cons
  exact skipSpace_append_cons hsp hspace (bs ++ rest)

end AgeReport.Json
