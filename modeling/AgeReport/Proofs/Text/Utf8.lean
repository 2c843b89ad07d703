import AgeReport.Text.Utf8

/-!
# UTF-8, both ways

Reading is exactly the reverse of writing: a character is read from its own bytes whatever follows
them, and bytes that are read as a character are that character's bytes, so that overlong forms and
surrogates are never read. Whether bytes are well-formed can therefore be said without the reader.

Results:
* `next_eq_char_iff`: the next symbol is a character exactly if its bytes come next.
* `decode?_eq_some_iff`, `text?_eq_some_iff`: bytes are a text exactly if they are the bytes of it.
-/

namespace AgeReport.Text

variable {b lo hi : UInt8} {bs rest : Bytes} {bits code : Nat} {ranges : List (UInt8 × UInt8)}
  {c : Char}

/-! ## Continuation bytes -/

theorem tail_nil_iff : tail bits [] bs = (some code, rest) ↔ bits = code ∧ bs = rest := by
  simp only [tail, Prod.mk.injEq, Option.some.injEq]

theorem tail_cons_iff : tail bits ((lo, hi) :: ranges) bs = (some code, rest) ↔
    ∃ b bs', bs = b :: bs' ∧ (lo.toNat ≤ b.toNat ∧ b.toNat ≤ hi.toNat) ∧
      tail (bits * 64 + b.toNat % 64) ranges bs' = (some code, rest) := by
  cases bs with
  | nil => simp [tail]
  | cons b bs =>
    have hin : lo ≤ b ∧ b ≤ hi ↔ lo.toNat ≤ b.toNat ∧ b.toNat ≤ hi.toNat := by
      rw [UInt8.le_iff_toNat_le, UInt8.le_iff_toNat_le]
    rw [tail]
    split
    · rename_i h
      constructor
      · intro htail
        exact ⟨b, bs, rfl, hin.1 h, htail⟩
      · rintro ⟨b', bs', heq, -, htail⟩
        cases heq
        exact htail
    · rename_i h
      constructor
      · intro htail
        cases htail
      · rintro ⟨b', bs', heq, hrange, -⟩
        cases heq
        exact absurd (hin.2 hrange) h

/-! ## The bytes of a character -/

theorem utf8EncodeChar_of_code (h : c.toNat = code) :
    String.utf8EncodeChar c =
      if code ≤ 0x7F then [UInt8.ofNat code]
      else if code ≤ 0x7FF then
        [UInt8.ofNat (code / 64 % 32 + 0xC0), UInt8.ofNat (code % 64 + 0x80)]
      else if code ≤ 0xFFFF then
        [UInt8.ofNat (code / 4096 % 16 + 0xE0), UInt8.ofNat (code / 64 % 64 + 0x80),
          UInt8.ofNat (code % 64 + 0x80)]
      else
        [UInt8.ofNat (code / 262144 % 8 + 0xF0), UInt8.ofNat (code / 4096 % 64 + 0x80),
          UInt8.ofNat (code / 64 % 64 + 0x80), UInt8.ofNat (code % 64 + 0x80)] := by
  subst h
  rfl

theorem le_toNat_ofNat {m : Nat} (hlo : 0x80 ≤ m) (hhi : m < 0x100) :
    0x80 ≤ (UInt8.ofNat m).toNat := by
  rwa [UInt8.toNat_ofNat_of_lt' hhi]

/-- A character beyond the first 128 has no byte among them. -/
theorem le_of_mem_utf8EncodeChar (hc : 0x80 ≤ c.toNat) :
    ∀ b ∈ String.utf8EncodeChar c, 0x80 ≤ b.toNat := by
  rw [utf8EncodeChar_of_code rfl]
  generalize c.toNat = code at hc
  have hnot : ¬ code ≤ 0x7F := by omega
  intro b hb
  rw [if_neg hnot] at hb
  split at hb
  · simp only [List.mem_cons, List.not_mem_nil, or_false] at hb
    rcases hb with rfl | rfl <;> exact le_toNat_ofNat (by omega) (by omega)
  split at hb
  · simp only [List.mem_cons, List.not_mem_nil, or_false] at hb
    rcases hb with rfl | rfl | rfl <;> exact le_toNat_ofNat (by omega) (by omega)
  · simp only [List.mem_cons, List.not_mem_nil, or_false] at hb
    rcases hb with rfl | rfl | rfl | rfl <;> exact le_toNat_ofNat (by omega) (by omega)

theorem toNat_ofNat_of_valid (h : code.isValidChar) : (Char.ofNat code).toNat = code := by
  rw [Char.ofNat, dif_pos h]
  rfl

theorem eq_ofNat_of_toNat_eq {n : Nat} (h : b.toNat = n) : b = UInt8.ofNat n := by
  rw [← h, UInt8.ofNat_toNat]

variable {x y z : UInt8}

theorem utf8EncodeChar_one (hb : b.toNat < 0x80) (hc : c.toNat = b.toNat) :
    String.utf8EncodeChar c = [b] := by
  rw [utf8EncodeChar_of_code hc, if_pos (by omega), UInt8.ofNat_toNat]

theorem utf8EncodeChar_two (hb : 0xC2 ≤ b.toNat ∧ b.toNat < 0xE0)
    (hx : 0x80 ≤ x.toNat ∧ x.toNat ≤ 0xBF) (hc : c.toNat = b.toNat % 32 * 64 + x.toNat % 64) :
    String.utf8EncodeChar c = [b, x] := by
  rw [utf8EncodeChar_of_code hc, if_neg (by omega), if_pos (by omega),
    ← eq_ofNat_of_toNat_eq (b := b) (by omega), ← eq_ofNat_of_toNat_eq (b := x) (by omega)]

theorem utf8EncodeChar_three (hb : 0xE0 ≤ b.toNat ∧ b.toNat < 0xF0)
    (hx : 0x80 ≤ x.toNat ∧ x.toNat ≤ 0xBF) (hy : 0x80 ≤ y.toNat ∧ y.toNat ≤ 0xBF)
    (hc : c.toNat = (b.toNat % 16 * 64 + x.toNat % 64) * 64 + y.toNat % 64)
    (hlong : 0x800 ≤ c.toNat) : String.utf8EncodeChar c = [b, x, y] := by
  rw [utf8EncodeChar_of_code hc, if_neg (by omega), if_neg (by omega), if_pos (by omega),
    ← eq_ofNat_of_toNat_eq (b := b) (by omega), ← eq_ofNat_of_toNat_eq (b := x) (by omega),
    ← eq_ofNat_of_toNat_eq (b := y) (by omega)]

theorem utf8EncodeChar_four (hb : 0xF0 ≤ b.toNat ∧ b.toNat < 0xF5)
    (hx : 0x80 ≤ x.toNat ∧ x.toNat ≤ 0xBF) (hy : 0x80 ≤ y.toNat ∧ y.toNat ≤ 0xBF)
    (hz : 0x80 ≤ z.toNat ∧ z.toNat ≤ 0xBF)
    (hc : c.toNat =
      ((b.toNat % 8 * 64 + x.toNat % 64) * 64 + y.toNat % 64) * 64 + z.toNat % 64)
    (hlong : 0x10000 ≤ c.toNat) : String.utf8EncodeChar c = [b, x, y, z] := by
  rw [utf8EncodeChar_of_code hc, if_neg (by omega), if_neg (by omega), if_neg (by omega),
    ← eq_ofNat_of_toNat_eq (b := b) (by omega), ← eq_ofNat_of_toNat_eq (b := x) (by omega),
    ← eq_ofNat_of_toNat_eq (b := y) (by omega), ← eq_ofNat_of_toNat_eq (b := z) (by omega)]

/-! ## First bytes -/

theorem lead?_one (hb : b.toNat < 0x80) : lead? b = some (b.toNat, []) := by
  rw [lead?, if_pos (UInt8.lt_iff_toNat_lt.2 hb)]

theorem lead?_two (hb : 0xC2 ≤ b.toNat ∧ b.toNat < 0xE0) :
    lead? b = some (b.toNat % 32, [anyTail]) := by
  simp only [lead?, UInt8.lt_iff_toNat_lt, UInt8.reduceToNat]
  rw [if_neg (by omega), if_neg (by omega), if_pos hb.2]

/-- The second of three bytes has narrower ranges behind two of the first bytes. -/
theorem lead?_three (hb : 0xE0 ≤ b.toNat ∧ b.toNat < 0xF0) :
    lead? b = some (b.toNat % 16,
      [(if b.toNat = 0xE0 then 0xA0 else 0x80, if b.toNat = 0xED then 0x9F else 0xBF),
        anyTail]) := by
  simp only [lead?, UInt8.lt_iff_toNat_lt, ← UInt8.toNat_inj, UInt8.reduceToNat]
  rw [if_neg (by omega), if_neg (by omega), if_neg (by omega)]
  split
  · simp_all
  · split
    · simp_all
    · rw [if_pos hb.2]
      rfl

/-- The second of four bytes has narrower ranges behind two of the first bytes. -/
theorem lead?_four (hb : 0xF0 ≤ b.toNat ∧ b.toNat < 0xF5) :
    lead? b = some (b.toNat % 8,
      [(if b.toNat = 0xF0 then 0x90 else 0x80, if b.toNat = 0xF4 then 0x8F else 0xBF),
        anyTail, anyTail]) := by
  simp only [lead?, UInt8.lt_iff_toNat_lt, ← UInt8.toNat_inj, UInt8.reduceToNat]
  rw [if_neg (by omega), if_neg (by omega), if_neg (by omega), if_neg (by omega),
    if_neg (by omega), if_neg (by omega)]
  split
  · simp_all
  · split
    · rw [if_neg (by omega)]
      rfl
    · have hb : b.toNat = 0xF4 := by omega
      rw [if_pos hb, if_pos hb, hb]

theorem lead?_none (hb : (0x80 ≤ b.toNat ∧ b.toNat < 0xC2) ∨ 0xF5 ≤ b.toNat) : lead? b = none := by
  simp only [lead?, UInt8.lt_iff_toNat_lt, ← UInt8.toNat_inj, UInt8.reduceToNat]
  rcases hb with hb | hb
  · rw [if_neg (by omega), if_pos hb.2]
  · rw [if_neg (by omega), if_neg (by omega), if_neg (by omega), if_neg (by omega),
      if_neg (by omega), if_neg (by omega), if_neg (by omega), if_neg (by omega), if_neg (by omega)]

/-! ## Characters -/

theorem next_iff_of_lead (hlead : lead? b = some (bits, ranges)) :
    next b bs = (.char c, rest) ↔
      ∃ code, tail bits ranges bs = (some code, rest) ∧ Char.ofNat code = c := by
  rw [next, hlead]
  dsimp only
  split
  · rename_i code rest' htail
    simp only [htail, Prod.mk.injEq, Symbol.char.injEq, Option.some.injEq]
    constructor
    · rintro ⟨hc, hrest⟩
      exact ⟨code, ⟨rfl, hrest⟩, hc⟩
    · rintro ⟨_, ⟨rfl, hrest⟩, hc⟩
      exact ⟨hc, hrest⟩
  · rename_i rest' htail
    simp [htail]

theorem eq_encode_of_next_one (hb : b.toNat < 0x80) (h : next b bs = (.char c, rest)) :
    b :: bs = String.utf8EncodeChar c ++ rest := by
  rw [next_iff_of_lead (lead?_one hb)] at h
  obtain ⟨code, htail, rfl⟩ := h
  obtain ⟨rfl, rfl⟩ := tail_nil_iff.1 htail
  rw [utf8EncodeChar_one hb (toNat_ofNat_of_valid (by omega))]
  rfl

theorem eq_encode_of_next_two (hb : 0xC2 ≤ b.toNat ∧ b.toNat < 0xE0)
    (h : next b bs = (.char c, rest)) : b :: bs = String.utf8EncodeChar c ++ rest := by
  rw [next_iff_of_lead (lead?_two hb)] at h
  obtain ⟨code, htail, rfl⟩ := h
  obtain ⟨x, bs, rfl, hx, htail⟩ := tail_cons_iff.1 htail
  obtain ⟨rfl, rfl⟩ := tail_nil_iff.1 htail
  rw [utf8EncodeChar_two hb hx (toNat_ofNat_of_valid (by omega))]
  rfl

theorem eq_encode_of_next_three (hb : 0xE0 ≤ b.toNat ∧ b.toNat < 0xF0)
    (h : next b bs = (.char c, rest)) : b :: bs = String.utf8EncodeChar c ++ rest := by
  rw [next_iff_of_lead (lead?_three hb)] at h
  obtain ⟨code, htail, rfl⟩ := h
  obtain ⟨x, bs, rfl, ⟨hlo, hhi⟩, htail⟩ := tail_cons_iff.1 htail
  obtain ⟨y, bs, rfl, hy, htail⟩ := tail_cons_iff.1 htail
  obtain ⟨rfl, rfl⟩ := tail_nil_iff.1 htail
  simp only [apply_ite UInt8.toNat, UInt8.reduceToNat] at hlo hhi hy
  -- the narrower ranges leave out the overlong forms and the surrogates
  have hlo : 0x80 ≤ x.toNat ∧ (b.toNat = 0xE0 → 0xA0 ≤ x.toNat) := by split at hlo <;> omega
  have hhi : x.toNat ≤ 0xBF ∧ (b.toNat = 0xED → x.toNat ≤ 0x9F) := by split at hhi <;> omega
  have hcode : (Char.ofNat ((b.toNat % 16 * 64 + x.toNat % 64) * 64 + y.toNat % 64)).toNat =
      (b.toNat % 16 * 64 + x.toNat % 64) * 64 + y.toNat % 64 := toNat_ofNat_of_valid (by omega)
  rw [utf8EncodeChar_three hb ⟨hlo.1, hhi.1⟩ hy hcode (by omega)]
  rfl

theorem eq_encode_of_next_four (hb : 0xF0 ≤ b.toNat ∧ b.toNat < 0xF5)
    (h : next b bs = (.char c, rest)) : b :: bs = String.utf8EncodeChar c ++ rest := by
  rw [next_iff_of_lead (lead?_four hb)] at h
  obtain ⟨code, htail, rfl⟩ := h
  obtain ⟨x, bs, rfl, ⟨hlo, hhi⟩, htail⟩ := tail_cons_iff.1 htail
  obtain ⟨y, bs, rfl, hy, htail⟩ := tail_cons_iff.1 htail
  obtain ⟨z, bs, rfl, hz, htail⟩ := tail_cons_iff.1 htail
  obtain ⟨rfl, rfl⟩ := tail_nil_iff.1 htail
  simp only [apply_ite UInt8.toNat, UInt8.reduceToNat] at hlo hhi hy hz
  -- the narrower ranges leave out the overlong forms and what lies above U+10FFFF
  have hlo : 0x80 ≤ x.toNat ∧ (b.toNat = 0xF0 → 0x90 ≤ x.toNat) := by split at hlo <;> omega
  have hhi : x.toNat ≤ 0xBF ∧ (b.toNat = 0xF4 → x.toNat ≤ 0x8F) := by split at hhi <;> omega
  have hcode : (Char.ofNat
      (((b.toNat % 8 * 64 + x.toNat % 64) * 64 + y.toNat % 64) * 64 + z.toNat % 64)).toNat =
      ((b.toNat % 8 * 64 + x.toNat % 64) * 64 + y.toNat % 64) * 64 + z.toNat % 64 :=
    toNat_ofNat_of_valid (by omega)
  rw [utf8EncodeChar_four hb ⟨hlo.1, hhi.1⟩ hy hz hcode (by omega)]
  rfl

/-- What is read as a character are its bytes. -/
theorem eq_encode_of_next (h : next b bs = (.char c, rest)) :
    b :: bs = String.utf8EncodeChar c ++ rest := by
  cases hlead : lead? b with
  | none =>
    rw [next, hlead] at h
    cases h
  | some _ =>
    have hfirst : ¬ ((0x80 ≤ b.toNat ∧ b.toNat < 0xC2) ∨ 0xF5 ≤ b.toNat) := by
      intro hnone
      rw [lead?_none hnone] at hlead
      cases hlead
    rcases Nat.lt_or_ge b.toNat 0x80 with h1 | h1
    · exact eq_encode_of_next_one h1 h
    rcases Nat.lt_or_ge b.toNat 0xE0 with h2 | h2
    · exact eq_encode_of_next_two ⟨by omega, h2⟩ h
    rcases Nat.lt_or_ge b.toNat 0xF0 with h3 | h3
    · exact eq_encode_of_next_three ⟨h2, h3⟩ h
    · exact eq_encode_of_next_four ⟨h3, by omega⟩ h

/-- Six bits of a code as a continuation byte. -/
theorem toNat_ofNat_tail (n : Nat) :
    (UInt8.ofNat (n % 64 + 0x80)).toNat = n % 64 + 0x80 ∧
      (0x80 : UInt8).toNat ≤ (UInt8.ofNat (n % 64 + 0x80)).toNat ∧
      (UInt8.ofNat (n % 64 + 0x80)).toNat ≤ (0xBF : UInt8).toNat := by
  rw [UInt8.toNat_ofNat_of_lt' (show _ < 256 by omega)]
  refine ⟨rfl, Nat.le_add_left 0x80 _, ?_⟩
  change _ ≤ 0xBF
  omega

/-- The bytes of a character are read as it, whatever follows. -/
theorem exists_next_encode (c : Char) (rest : Bytes) :
    ∃ b bs, String.utf8EncodeChar c ++ rest = b :: bs ∧ next b bs = (.char c, rest) := by
  have hvalid : c.toNat.isValidChar := c.valid
  have hback : Char.ofNat c.toNat = c := Char.ofNat_toNat c
  rw [utf8EncodeChar_of_code rfl]
  generalize c.toNat = code at hvalid hback
  split
  · have hb := UInt8.toNat_ofNat_of_lt' (show code < 256 by omega)
    refine ⟨_, _, rfl, (next_iff_of_lead (lead?_one (by omega))).2 ⟨code, ?_, hback⟩⟩
    exact tail_nil_iff.2 ⟨hb, rfl⟩
  split
  · have hb := UInt8.toNat_ofNat_of_lt' (show code / 64 % 32 + 0xC0 < 256 by omega)
    obtain ⟨hx, hxrange⟩ := toNat_ofNat_tail code
    refine ⟨_, _, rfl, (next_iff_of_lead (lead?_two (by omega))).2 ⟨code, ?_, hback⟩⟩
    refine tail_cons_iff.2 ⟨_, _, rfl, hxrange, tail_nil_iff.2 ⟨by omega, rfl⟩⟩
  split
  · have hb := UInt8.toNat_ofNat_of_lt' (show code / 4096 % 16 + 0xE0 < 256 by omega)
    obtain ⟨hx, -⟩ := toNat_ofNat_tail (code / 64)
    obtain ⟨hy, hyrange⟩ := toNat_ofNat_tail code
    refine ⟨_, _, rfl, (next_iff_of_lead (lead?_three (by omega))).2 ⟨code, ?_, hback⟩⟩
    refine tail_cons_iff.2 ⟨_, _, rfl, ?_, tail_cons_iff.2 ⟨_, _, rfl, hyrange,
      tail_nil_iff.2 ⟨by omega, rfl⟩⟩⟩
    simp only [apply_ite UInt8.toNat, UInt8.reduceToNat, hb, hx]
    constructor <;> split <;> omega
  · have hb := UInt8.toNat_ofNat_of_lt' (show code / 262144 % 8 + 0xF0 < 256 by omega)
    obtain ⟨hx, -⟩ := toNat_ofNat_tail (code / 4096)
    obtain ⟨hy, hyrange⟩ := toNat_ofNat_tail (code / 64)
    obtain ⟨hz, hzrange⟩ := toNat_ofNat_tail code
    refine ⟨_, _, rfl, (next_iff_of_lead (lead?_four (by omega))).2 ⟨code, ?_, hback⟩⟩
    refine tail_cons_iff.2 ⟨_, _, rfl, ?_, tail_cons_iff.2 ⟨_, _, rfl, hyrange,
      tail_cons_iff.2 ⟨_, _, rfl, hzrange, tail_nil_iff.2 ⟨by omega, rfl⟩⟩⟩⟩
    simp only [apply_ite UInt8.toNat, UInt8.reduceToNat, hb, hx]
    constructor <;> split <;> omega

/-- The next symbol is a character exactly if its bytes come next. -/
theorem next_eq_char_iff :
    next b bs = (.char c, rest) ↔ b :: bs = String.utf8EncodeChar c ++ rest := by
  constructor
  · exact eq_encode_of_next
  · intro h
    obtain ⟨b', bs', heq, hnext⟩ := exists_next_encode c rest
    rw [← h] at heq
    cases heq
    exact hnext

/-! ## Texts -/

variable {cs : List Char}

theorem encode_cons (c : Char) (cs : List Char) :
    encode (c :: cs) = String.utf8EncodeChar c ++ encode cs :=
  List.flatMap_cons

theorem zero_mem_utf8EncodeChar_iff : 0 ∈ String.utf8EncodeChar c ↔ c = '\x00' := by
  constructor
  · intro h
    rcases Nat.lt_or_ge c.toNat 0x80 with hlt | hge
    · have hone : String.utf8EncodeChar c = [UInt8.ofNat c.toNat] :=
        utf8EncodeChar_one (by rw [UInt8.toNat_ofNat']; omega) (by rw [UInt8.toNat_ofNat']; omega)
      rw [hone, List.mem_singleton] at h
      have hcode := congrArg UInt8.toNat h
      rw [UInt8.toNat_ofNat'] at hcode
      exact Char.toNat_inj.1 (by change 0 = _ at hcode; change _ = 0; omega)
    · exact absurd (le_of_mem_utf8EncodeChar hge 0 h) (by decide)
  · rintro rfl
    decide

/-- Only the character U+0000 has a zero byte. -/
theorem zero_mem_encode_iff : 0 ∈ encode cs ↔ '\x00' ∈ cs := by
  rw [encode, List.mem_flatMap]
  simp only [zero_mem_utf8EncodeChar_iff, exists_eq_right]

theorem chars_eq_ok_iff : chars bs = .ok cs ↔ bs = encode cs := by
  constructor
  · intro h
    fun_induction chars bs generalizing cs with
    | case1 =>
      cases h
      rfl
    | case2 b bs _ _ _ => cases h
    | case3 b bs c rest hnext ih =>
      cases hrest : chars (next b bs).2 with
      | error _ =>
        rw [hrest] at h
        cases h
      | ok ds =>
        rw [hrest] at h
        cases h
        rw [encode_cons, ← ih hrest]
        exact eq_encode_of_next (by rw [hnext])
  · rintro rfl
    induction cs with
    | nil => rw [encode_nil, chars]
    | cons c cs ih =>
      rw [encode_cons]
      obtain ⟨b, bs, heq, hnext⟩ := exists_next_encode c (encode cs)
      rw [heq, chars, hnext]
      dsimp only
      rw [ih]
      rfl

theorem decode?_eq_some_iff : decode? bs = some cs ↔ bs = encode cs := by
  rw [← chars_eq_ok_iff, decode?]
  cases chars bs <;> simp [Except.toOption]

/-- Bytes are a text exactly if they are the bytes of that text. -/
theorem text?_eq_some_iff {s : String} : text? bs = some s ↔ bs = bytes s := by
  rw [text?, Option.map_eq_some_iff, bytes]
  constructor
  · rintro ⟨cs, hcs, rfl⟩
    rw [String.toList_ofList]
    exact decode?_eq_some_iff.1 hcs
  · intro h
    exact ⟨s.toList, decode?_eq_some_iff.2 h, String.ofList_toList⟩

theorem text?_bytes (s : String) : text? (bytes s) = some s :=
  text?_eq_some_iff.2 rfl

end AgeReport.Text
