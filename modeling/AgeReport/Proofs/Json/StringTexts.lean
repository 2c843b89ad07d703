import AgeReport.Proofs.Json.Grammar

/-!
# Reading and skipping strings of any form

A string is passed over piece by piece, whatever its escapes stand for. What it holds is gathered
in the same pieces, an escape as the bytes of its character, so in the end the bytes are those of
the characters that the string spells.

Results:
* `StringBody.skipString_eq`: any string is passed over.
* `Unescapes.readString_eq`: a string is read as the characters that it stands for.
-/

namespace AgeReport.Json

variable {bs rest left content body u v : Bytes} {b : UInt8} {c : Char} {cs : List Char} {n : Nat}

/-! ## Escapes -/

theorem UnitText.readHex_eq (h : UnitText u n) (rest : Bytes) :
    readHex (u ++ rest) = .ok (n, rest) := by
  cases h with
  | intro ha hb hc hd => simp [readHex, ha, hb, hc, hd]

theorem readEscape_short (hb : shortEscape? b = some c) (rest : Bytes) :
    readEscape (b :: rest) = .ok (c, rest) := by
  rw [readEscape, hb]

theorem readEscape_unit (hu : UnitText u n) (hn : isLeading n = false ∧ isTrailing n = false)
    (rest : Bytes) : readEscape (0x75 :: (u ++ rest)) = .ok (Char.ofNat n, rest) := by
  have hunit : readCodeUnit (u ++ rest) = .ok (Char.ofNat n, rest) := by
    rw [readCodeUnit, hu.readHex_eq, ok_bind]
    simp only [hn, Bool.false_eq_true, ↓reduceIte]
    rfl
  exact hunit

theorem isTrailing_of_isLeading (h : isLeading n = true) : isTrailing n = false := by
  simp only [isLeading, isTrailing, Bool.and_eq_true, decide_eq_true_eq, Bool.and_eq_false_iff,
    decide_eq_false_iff_not] at h ⊢
  omega

theorem readEscape_pair {high low : Nat} (hu : UnitText u high) (hv : UnitText v low)
    (hhigh : isLeading high = true) (hlow : isTrailing low = true) (rest : Bytes) :
    readEscape (0x75 :: (u ++ 0x5C :: 0x75 :: (v ++ rest))) =
      .ok (Char.ofNat ((high - 0xD800) * 1024 + (low - 0xDC00) + 0x10000), rest) := by
  have htrailing : readTrailing high (0x5C :: 0x75 :: (v ++ rest)) =
      .ok (Char.ofNat ((high - 0xD800) * 1024 + (low - 0xDC00) + 0x10000), rest) := by
    rw [readTrailing, hv.readHex_eq, ok_bind]
    exact if_pos hlow
  have hunit : readCodeUnit (u ++ 0x5C :: 0x75 :: (v ++ rest)) =
      readTrailing high (0x5C :: 0x75 :: (v ++ rest)) := by
    rw [readCodeUnit, hu.readHex_eq, ok_bind]
    simp only [isTrailing_of_isLeading hhigh, hhigh, Bool.false_eq_true, ↓reduceIte]
  exact hunit.trans htrailing

/-! ## Skipping -/

theorem skipString_eq (bs : Bytes) :
    skipString bs =
      match bs.dropWhile isPlain with
      | [] => .error (.before [] .endOfString)
      | b :: rest =>
        if b = 0x22 then .ok rest
        else if b = 0x5C then skipEscape rest >>= skipString
        else .error (.before (b :: rest) .controlCharacter) := by
  rw [skipString]
  split
  · rename_i h
    rw [h]
  · rename_i b rest h
    rw [h]
    dsimp only
    congr 2
    split
    · rename_i he
      rw [he]
      rfl
    · rename_i he
      rw [he]
      rfl

theorem skipString_plain (hb : isPlain b = true) (bs : Bytes) :
    skipString (b :: bs) = skipString bs := by
  rw [skipString_eq, skipString_eq bs, List.dropWhile_cons_of_pos hb]

theorem skipString_escape (h : skipEscape bs = .ok rest) :
    skipString (0x5C :: bs) = skipString rest := by
  rw [skipString_eq, List.dropWhile_cons_of_neg (by decide)]
  simp only [h]
  rfl

/-- Any string is passed over. -/
theorem StringBody.skipString_eq (h : StringBody body) (rest : Bytes) :
    skipString (body ++ 0x22 :: rest) = .ok rest := by
  induction h with
  | nil =>
    rw [List.nil_append, Json.skipString_eq, List.dropWhile_cons_of_neg (by decide)]
    rfl
  | plain hb _ ih => rw [List.cons_append, skipString_plain hb, ih]
  | @short b c bs hb _ ih =>
    have hescape : skipEscape (b :: (bs ++ 0x22 :: rest)) = .ok (bs ++ 0x22 :: rest) := by
      simp [skipEscape, hb]
    rw [List.cons_append, List.cons_append, skipString_escape hescape, ih]
  | @unit u bs n hu _ ih =>
    have hescape : skipEscape (0x75 :: (u ++ (bs ++ 0x22 :: rest))) = .ok (bs ++ 0x22 :: rest) := by
      have hhex := hu.readHex_eq (bs ++ 0x22 :: rest)
      change (readHex (u ++ (bs ++ 0x22 :: rest))).map Prod.snd = _
      rw [hhex]
      rfl
    rw [List.cons_append, List.cons_append, List.append_assoc, skipString_escape hescape, ih]

/-! ## Reading -/

theorem readContent_eq (bs : Bytes) :
    readContent bs =
      match bs.dropWhile isPlain with
      | [] => .error (.before [] .endOfString)
      | b :: rest =>
        if b = 0x22 then .ok (bs.takeWhile isPlain, rest)
        else if b = 0x5C then do
          let (c, rest) ← readEscape rest
          (readContent rest).map fun p => (bs.takeWhile isPlain ++ Text.encode [c] ++ p.1, p.2)
        else .error (.before rest .controlCharacter) := by
  rw [readContent]
  split
  · rename_i h
    rw [h]
  · rename_i b rest h
    rw [h]
    dsimp only
    congr 2
    split
    · rename_i he
      rw [he]
      rfl
    · rename_i he
      rw [he]
      rfl

theorem readContent_quote (rest : Bytes) : readContent (0x22 :: rest) = .ok ([], rest) := by
  rw [readContent_eq, List.dropWhile_cons_of_neg (by decide), List.takeWhile_cons_of_neg (by decide)]
  rfl

/-- Bytes that stand for themselves are gathered as they are. -/
theorem readContent_plain (hbs : ∀ b ∈ bs, isPlain b = true)
    (h : readContent rest = .ok (content, left)) :
    readContent (bs ++ rest) = .ok (bs ++ content, left) := by
  rw [readContent_eq] at h ⊢
  rw [List.dropWhile_append_of_pos hbs, List.takeWhile_append_of_pos hbs]
  cases hd : rest.dropWhile isPlain with
  | nil =>
    rw [hd] at h
    cases h
  | cons b tail =>
    simp only [hd] at h ⊢
    by_cases hquote : b = 0x22
    · rw [if_pos hquote] at h ⊢
      cases h
      rfl
    rw [if_neg hquote] at h ⊢
    by_cases hslash : b = 0x5C
    · rw [if_pos hslash] at h ⊢
      obtain ⟨⟨c, rest'⟩, hescape, h⟩ := of_bind_eq_ok h
      obtain ⟨p, hcontent, hp⟩ := of_map_eq_ok h
      cases hp
      simp only [hescape, ok_bind, hcontent, Except.map, List.append_assoc]
    · rw [if_neg hslash] at h
      cases h

/-- An escape is gathered as the bytes of its character. -/
theorem readContent_escape (hescape : readEscape bs = .ok (c, rest))
    (h : readContent rest = .ok (Text.encode cs, left)) :
    readContent (0x5C :: bs) = .ok (Text.encode (c :: cs), left) := by
  rw [readContent_eq, List.dropWhile_cons_of_neg (by decide),
    List.takeWhile_cons_of_neg (by decide)]
  simp only [hescape, ok_bind, h, Except.map]
  rw [List.nil_append, ← Text.encode_append]
  rfl

theorem isPlain_of_le (h : 0x80 ≤ b.toNat) : isPlain b = true := by
  have hne : ∀ d : UInt8, d.toNat < 0x80 → b ≠ d := by
    rintro d hd rfl
    omega
  simp only [isPlain, Bool.and_eq_true, decide_eq_true_eq, bne_iff_ne, UInt8.le_iff_toNat_le]
  exact ⟨⟨Nat.le_trans (by decide) h, hne _ (by decide)⟩, hne _ (by decide)⟩

theorem isPlain_ofNat (hlo : 0x20 ≤ c.toNat) (hhi : c.toNat < 0x80) (hquote : c ≠ '"')
    (hslash : c ≠ '\\') : isPlain (UInt8.ofNat c.toNat) = true := by
  have hb : (UInt8.ofNat c.toNat).toNat = c.toNat :=
    UInt8.toNat_ofNat_of_lt' (Nat.lt_trans hhi (by decide))
  have hne : ∀ d : Char, d.toNat < 0x80 → c ≠ d → UInt8.ofNat c.toNat ≠ UInt8.ofNat d.toNat := by
    intro d hd hcd heq
    have hnat := congrArg UInt8.toNat heq
    rw [hb, UInt8.toNat_ofNat_of_lt' (Nat.lt_trans hd (by decide))] at hnat
    exact hcd (Char.ext (UInt32.toNat.inj hnat))
  simp only [isPlain, Bool.and_eq_true, decide_eq_true_eq, bne_iff_ne]
  refine ⟨⟨?_, hne '"' (by decide) hquote⟩, hne '\\' (by decide) hslash⟩
  rw [UInt8.le_iff_toNat_le, hb]
  exact hlo

/-- The bytes of a character that needs no escape stand for themselves. -/
theorem isPlain_of_mem_utf8EncodeChar (hc : 0x20 ≤ c.toNat ∧ c ≠ '"' ∧ c ≠ '\\') :
    ∀ b ∈ String.utf8EncodeChar c, isPlain b = true := by
  intro b hb
  rcases Nat.lt_or_ge c.toNat 0x80 with h | h
  · rw [Text.utf8EncodeChar_of_code rfl, if_pos (by omega), List.mem_singleton] at hb
    subst hb
    exact isPlain_ofNat hc.1 h hc.2.1 hc.2.2
  · exact isPlain_of_le (Text.le_of_mem_utf8EncodeChar h b hb)

theorem StringBody.append_plain (hbs : ∀ b ∈ bs, isPlain b = true) (h : StringBody body) :
    StringBody (bs ++ body) := by
  induction bs with
  | nil => exact h
  | cons b bs ih =>
    exact .plain (hbs b List.mem_cons_self) (ih fun d hd => hbs d (List.mem_cons_of_mem b hd))

/-- Whatever stands for characters may stand between quotes. -/
theorem Unescapes.stringBody (h : Unescapes body cs) : StringBody body := by
  induction h with
  | nil => exact .nil
  | char hc _ ih => exact ih.append_plain (isPlain_of_mem_utf8EncodeChar hc)
  | short hb _ ih => exact .short hb ih
  | unit hu _ _ ih => exact .unit hu ih
  | pair hu hv _ _ _ ih => exact .unit hu (.unit hv ih)

theorem Unescapes.readContent_eq (h : Unescapes body cs) (rest : Bytes) :
    readContent (body ++ 0x22 :: rest) = .ok (Text.encode cs, rest) := by
  induction h with
  | nil => exact readContent_quote rest
  | char hc _ ih =>
    rw [Text.encode_cons, List.append_assoc]
    exact readContent_plain (isPlain_of_mem_utf8EncodeChar hc) ih
  | short hb _ ih =>
    rw [List.cons_append, List.cons_append]
    exact readContent_escape (readEscape_short hb _) ih
  | unit hu hn _ ih =>
    rw [List.cons_append, List.cons_append, List.append_assoc]
    exact readContent_escape (readEscape_unit hu hn _) ih
  | pair hu hv hhigh hlow _ ih =>
    rw [List.cons_append, List.cons_append, List.append_assoc, List.cons_append, List.cons_append,
      List.append_assoc]
    exact readContent_escape (readEscape_pair hu hv hhigh hlow _) ih

/-- A string is read as the characters that it stands for. -/
theorem Unescapes.readString_eq (h : Unescapes body cs) (rest : Bytes) :
    readString (body ++ 0x22 :: rest) = .ok (cs, rest) := by
  rw [readString, h.readContent_eq, ok_bind]
  dsimp only
  rw [Text.chars_eq_ok_iff.2 rfl]
  rfl

/-! ## Plain names -/

/-- Whether a character is one byte that stands for itself between quotes. -/
def isPlainChar (c : Char) : Bool :=
  0x20 ≤ c.toNat && c.toNat < 0x80 && c != '"' && c != '\\'

/-- Names that need no escapes. -/
def PlainName (s : String) : Prop :=
  ∀ c ∈ s.toList, isPlainChar c = true

instance (s : String) : Decidable (PlainName s) :=
  decidable_of_iff (s.toList.all isPlainChar = true) List.all_eq_true

theorem isPlainChar_iff {c : Char} :
    isPlainChar c = true ↔ ((0x20 ≤ c.toNat ∧ c.toNat < 0x80) ∧ c ≠ '"') ∧ c ≠ '\\' := by
  rw [isPlainChar, Bool.and_eq_true, Bool.and_eq_true, Bool.and_eq_true, decide_eq_true_eq,
    decide_eq_true_eq, bne_iff_ne, bne_iff_ne]

/-- A plain name stands for itself. -/
theorem unescapes_of_isPlainChar (h : ∀ c ∈ cs, isPlainChar c = true) :
    Unescapes (Text.encode cs) cs := by
  induction cs with
  | nil => exact .nil
  | cons c cs ih =>
    obtain ⟨⟨⟨hlo, -⟩, hquote⟩, hslash⟩ := isPlainChar_iff.1 (h c List.mem_cons_self)
    rw [Text.encode_cons]
    exact .char ⟨hlo, hquote, hslash⟩ (ih fun d hd => h d (List.mem_cons_of_mem c hd))

end AgeReport.Json
