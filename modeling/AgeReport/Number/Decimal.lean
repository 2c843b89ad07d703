import AgeReport.Text.Utf8

/-!
# Decimal texts of integers

Integers in base ten: the fewest digits, with `-` before those of a negative number.

* `digits_ne_nil`, `isDigit_of_mem_digits`: a number has at least one digit, and only digits;
* `ofInt_natCast`, `ofInt_neg`: the sign;
* `valueFrom_digits`: the digits of a number have its value.
-/

namespace AgeReport.Decimal

/-- The character of a digit. -/
def digitChar (d : Nat) : Char :=
  Char.ofNat (48 + d)

/-- The digits of a natural number, the highest first. -/
def digits (n : Nat) : List Char :=
  if n < 10 then [digitChar n] else digits (n / 10) ++ [digitChar (n % 10)]

/-- The decimal text of an integer, as characters. -/
def ofInt : Int → List Char
  | .ofNat n => digits n
  | .negSucc n => '-' :: digits (n + 1)

/-- The decimal text of an integer. -/
def text (n : Int) : String :=
  String.ofList (ofInt n)

/-- The decimal text of an integer, as bytes. -/
def bytes (n : Int) : Bytes :=
  Text.encode (ofInt n)

/-- The value of a decimal digit. -/
def digit? (c : Char) : Option Nat :=
  if '0' ≤ c ∧ c ≤ '9' then some (c.toNat - 48) else none

/-- The value of a byte that is a decimal digit. -/
def digitByte? (b : UInt8) : Option Nat :=
  if 0x30 ≤ b ∧ b ≤ 0x39 then some (b.toNat - 0x30) else none

/-- Whether a byte is a decimal digit. -/
def isDigitByte (b : UInt8) : Bool :=
  (digitByte? b).isSome

theorem digit?_digitChar {d : Nat} (h : d < 10) : digit? (digitChar d) = some d := by
  have : ∀ d : Fin 10, digit? (digitChar d.1) = some d.1 := by decide
  exact this ⟨d, h⟩

theorem digits_of_lt {n : Nat} (h : n < 10) : digits n = [digitChar n] := by
  rw [digits, if_pos h]

theorem digits_of_le {n : Nat} (h : 10 ≤ n) :
    digits n = digits (n / 10) ++ [digitChar (n % 10)] := by
  rw [digits, if_neg (Nat.not_lt.2 h)]

theorem digits_ne_nil (n : Nat) : digits n ≠ [] := by
  rw [digits]
  split <;> simp

theorem isDigit_of_mem_digits {n : Nat} {c : Char} (h : c ∈ digits n) : (digit? c).isSome := by
  induction n using digits.induct with
  | case1 n hn =>
    rw [digits_of_lt hn, List.mem_singleton] at h
    rw [h, digit?_digitChar hn, Option.isSome_some]
  | case2 n hn ih =>
    rw [digits_of_le (Nat.not_lt.1 hn), List.mem_append, List.mem_singleton] at h
    rcases h with h | h
    · exact ih h
    · rw [h, digit?_digitChar (Nat.mod_lt n (by decide)), Option.isSome_some]

theorem ofInt_natCast (n : Nat) : ofInt n = digits n := rfl

theorem ofInt_neg {n : Nat} (h : 0 < n) : ofInt (-n) = '-' :: digits n := by
  obtain ⟨m, rfl⟩ : ∃ m, n = m + 1 := ⟨n - 1, by omega⟩
  rfl

/-! ## Values of digits -/

/-- The value of digits behind digits of the value `v`. -/
def valueFrom (v : Nat) (cs : List Char) : Nat :=
  cs.foldl (fun v c => v * 10 + (c.toNat - 48)) v

theorem valueFrom_cons (v : Nat) (c : Char) (cs : List Char) :
    valueFrom v (c :: cs) = valueFrom (v * 10 + (c.toNat - 48)) cs := by
  rw [valueFrom, List.foldl_cons, ← valueFrom]

theorem valueFrom_append (v : Nat) (cs ds : List Char) :
    valueFrom v (cs ++ ds) = valueFrom (valueFrom v cs) ds := by
  rw [valueFrom, List.foldl_append, ← valueFrom, ← valueFrom]

theorem le_valueFrom (v : Nat) (cs : List Char) : v ≤ valueFrom v cs := by
  induction cs generalizing v with
  | nil => exact Nat.le_refl v
  | cons c cs ih =>
    rw [valueFrom_cons]
    have := ih (v * 10 + (c.toNat - 48))
    omega

theorem toNat_digitChar {d : Nat} (h : d < 10) : (digitChar d).toNat = 48 + d := by
  have : ∀ d : Fin 10, (digitChar d.1).toNat = 48 + d.1 := by decide
  exact this ⟨d, h⟩

theorem valueFrom_digits (n : Nat) : valueFrom 0 (digits n) = n := by
  induction n using digits.induct with
  | case1 n hn =>
    rw [digits_of_lt hn, valueFrom_cons, toNat_digitChar hn, valueFrom, List.foldl_nil]
    omega
  | case2 n hn ih =>
    have hmod : n % 10 < 10 := Nat.mod_lt n (by decide)
    rw [digits_of_le (Nat.not_lt.1 hn), valueFrom_append, ih, valueFrom_cons,
      toNat_digitChar hmod, valueFrom, List.foldl_nil]
    omega

/-- Only the number zero begins with a zero. -/
theorem head?_digits_ne {n : Nat} (h : 0 < n) : (digits n).head? ≠ some '0' := by
  induction n using digits.induct with
  | case1 n hn =>
    rw [digits_of_lt hn]
    intro hzero
    have hd := toNat_digitChar hn
    rw [Option.some.inj hzero] at hd
    change 48 = 48 + n at hd
    omega
  | case2 n hn ih =>
    obtain ⟨c, cs, hcs⟩ := List.exists_cons_of_ne_nil (digits_ne_nil (n / 10))
    rw [digits_of_le (Nat.not_lt.1 hn), hcs]
    rw [hcs] at ih
    exact ih (by omega)

theorem digit?_eq_some {c : Char} {d : Nat} (h : digit? c = some d) :
    d = c.toNat - 48 ∧ 48 ≤ c.toNat ∧ c.toNat ≤ 57 := by
  unfold digit? at h
  split at h
  · rename_i hc
    exact ⟨(Option.some.inj h).symm, hc.1, hc.2⟩
  · cases h

/-- A digit is one byte, which stands for the same digit. -/
theorem encode_digit {c : Char} {d : Nat} (h : digit? c = some d) (cs : List Char) :
    ∃ b, Text.encode (c :: cs) = b :: Text.encode cs ∧ digitByte? b = some d := by
  obtain ⟨hd, hlo, hhi⟩ := digit?_eq_some h
  refine ⟨UInt8.ofNat c.toNat, Text.encode_cons_of_lt (by omega) cs, ?_⟩
  have hb : (UInt8.ofNat c.toNat).toNat = c.toNat :=
    UInt8.toNat_ofNat_of_lt' (Nat.lt_of_le_of_lt hhi (by decide))
  have hrange : 0x30 ≤ UInt8.ofNat c.toNat ∧ UInt8.ofNat c.toNat ≤ 0x39 := by
    rw [UInt8.le_iff_toNat_le, UInt8.le_iff_toNat_le, hb]
    exact ⟨hlo, hhi⟩
  rw [digitByte?, if_pos hrange, hb, hd]

theorem isDigitByte_of_mem_encode {cs : List Char} (h : ∀ c ∈ cs, (digit? c).isSome) :
    ∀ b ∈ Text.encode cs, isDigitByte b = true := by
  induction cs with
  | nil => simp
  | cons c cs ih =>
    obtain ⟨d, hd⟩ := Option.isSome_iff_exists.1 (h c List.mem_cons_self)
    obtain ⟨b, hb, hdigit⟩ := encode_digit hd cs
    rw [hb]
    intro b' hb'
    rcases List.mem_cons.1 hb' with rfl | hb'
    · rw [isDigitByte, hdigit, Option.isSome_some]
    · exact ih (fun c' hc' => h c' (List.mem_cons_of_mem c hc')) b' hb'

theorem ne_of_isDigitByte {b c : UInt8} (h : isDigitByte b = true) (hc : isDigitByte c = false) :
    b ≠ c := by
  rintro rfl
  rw [h] at hc
  cases hc

end AgeReport.Decimal
