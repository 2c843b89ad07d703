import AgeReport.Json.Fault

/-!
# The small parts of JSON texts

Blanks, words such as `null`, and strings. A string is read to its closing quote first, where an
escape stands for the bytes of one character; what it holds then has to be well-formed as a whole.

* `readEscape_length_lt`: an escape takes up at least one byte;
* `readContent_length_lt`, `readString_length_lt`: so does a string, for its closing quote.
-/

namespace AgeReport.Json

/-! ## Blanks and words -/

/-- Whether a byte may stand between the parts of a text. -/
def isSpace (b : UInt8) : Bool :=
  b == 0x20 || b == 0x0A || b == 0x09 || b == 0x0D

/-- Drops the blanks at the beginning. -/
def skipSpace (bs : Bytes) : Bytes :=
  bs.dropWhile isSpace

theorem skipSpace_length_le (bs : Bytes) : (skipSpace bs).length ≤ bs.length :=
  (List.dropWhile_sublist isSpace).length_le

/-- Reads the given bytes of a word. -/
def readWord : Bytes → Bytes → Except Fault Bytes
  | [], bs => .ok bs
  | _ :: _, [] => .error (.before [] .endOfValue)
  | w :: word, b :: bs => if b = w then readWord word bs else .error (.before bs .identExpected)

theorem readWord_length_le {word bs rest : Bytes} (h : readWord word bs = .ok rest) :
    rest.length ≤ bs.length := by
  induction word generalizing bs with
  | nil => grind [readWord]
  | cons w word ih => cases bs <;> grind [readWord]

/-- What follows the first letter of `null`. -/
def nullTail : Bytes := Text.bytes "ull"

/-- What follows the first letter of `true`. -/
def trueTail : Bytes := Text.bytes "rue"

/-- What follows the first letter of `false`. -/
def falseTail : Bytes := Text.bytes "alse"

/-! ## Escapes -/

/-- The value of a digit to base 16. -/
def hexDigit? (b : UInt8) : Option Nat :=
  if 0x30 ≤ b ∧ b ≤ 0x39 then some (b.toNat - 0x30)
  else if 0x41 ≤ b ∧ b ≤ 0x46 then some (b.toNat - 0x37)
  else if 0x61 ≤ b ∧ b ≤ 0x66 then some (b.toNat - 0x57)
  else none

/-- Reads four digits to base 16. -/
def readHex : Reader Nat
  | a :: b :: c :: d :: rest =>
    match hexDigit? a, hexDigit? b, hexDigit? c, hexDigit? d with
    | some a, some b, some c, some d => .ok (((a * 16 + b) * 16 + c) * 16 + d, rest)
    | _, _, _, _ => .error (.before rest .invalidEscape)
  | _ => .error (.before [] .endOfString)

/-- Whether a code unit is the first half of a pair. -/
def isLeading (n : Nat) : Bool :=
  0xD800 ≤ n && n ≤ 0xDBFF

/-- Whether a code unit is the second half of a pair. -/
def isTrailing (n : Nat) : Bool :=
  0xDC00 ≤ n && n ≤ 0xDFFF

/-- Reads the second half of the pair that begins with `high`. -/
def readTrailing (high : Nat) : Reader Char
  | [] => .error (.before [] .endOfString)
  | [0x5C] => .error (.before [] .endOfString)
  | 0x5C :: 0x75 :: rest => do
    let (low, rest) ← readHex rest
    if isTrailing low then
      return (Char.ofNat ((high - 0xD800) * 1024 + (low - 0xDC00) + 0x10000), rest)
    else throw (.before rest .loneSurrogate)
  | 0x5C :: _ :: rest => .error (.before rest .unfinishedEscape)
  | _ :: rest => .error (.before rest .unfinishedEscape)

/-- Reads a code unit by its number, and the second half of a pair after the first. -/
def readCodeUnit (bs : Bytes) : Except Fault (Char × Bytes) := do
  let (n, rest) ← readHex bs
  if isTrailing n then throw (.before rest .loneSurrogate)
  else if isLeading n then readTrailing n rest
  else return (Char.ofNat n, rest)

/-- The character of a short escape. -/
def shortEscape? (b : UInt8) : Option Char :=
  if b = 0x22 then some '"'
  else if b = 0x5C then some '\\'
  else if b = 0x2F then some '/'
  else if b = 0x62 then some '\x08'
  else if b = 0x66 then some '\x0c'
  else if b = 0x6E then some '\n'
  else if b = 0x72 then some '\r'
  else if b = 0x74 then some '\t'
  else none

/-- Reads what follows a backslash. -/
def readEscape : Reader Char
  | [] => .error (.before [] .endOfString)
  | b :: bs =>
    match shortEscape? b with
    | some c => .ok (c, bs)
    | none => if b = 0x75 then readCodeUnit bs else .error (.before bs .invalidEscape)

theorem readHex_length_lt {bs rest : Bytes} {n : Nat} (h : readHex bs = .ok (n, rest)) :
    rest.length < bs.length := by
  unfold readHex at h
  split at h
  · split at h
    · simp only [Except.ok.injEq, Prod.mk.injEq] at h
      rw [← h.2]
      simp only [List.length_cons]
      omega
    · simp at h
  · simp at h

theorem readTrailing_length_lt {high : Nat} {bs rest : Bytes} {c : Char}
    (h : readTrailing high bs = .ok (c, rest)) : rest.length < bs.length := by
  unfold readTrailing at h
  split at h
  · simp at h
  · simp at h
  · rename_i tail
    cases hx : readHex tail with
    | error f => simp [hx, bind, Except.bind] at h
    | ok p =>
      obtain ⟨low, rest'⟩ := p
      have hlt := readHex_length_lt hx
      simp only [hx, bind, Except.bind] at h
      split at h
      · simp only [pure, Except.pure, Except.ok.injEq, Prod.mk.injEq] at h
        rw [← h.2]
        simp only [List.length_cons]
        omega
      · simp [throw, throwThe, MonadExceptOf.throw] at h
  · simp at h
  · simp at h

theorem readCodeUnit_length_lt {bs rest : Bytes} {c : Char}
    (h : readCodeUnit bs = .ok (c, rest)) : rest.length < bs.length := by
  unfold readCodeUnit at h
  cases hx : readHex bs with
  | error f => simp [hx, bind, Except.bind] at h
  | ok p =>
    obtain ⟨n, rest'⟩ := p
    have hlt := readHex_length_lt hx
    simp only [hx, bind, Except.bind] at h
    split at h
    · simp [throw, throwThe, MonadExceptOf.throw] at h
    · split at h
      · exact Nat.lt_trans (readTrailing_length_lt h) hlt
      · simp only [pure, Except.pure, Except.ok.injEq, Prod.mk.injEq] at h
        rw [← h.2]
        exact hlt

theorem readEscape_length_lt {bs rest : Bytes} {c : Char} (h : readEscape bs = .ok (c, rest)) :
    rest.length < bs.length := by
  cases bs with
  | nil => simp [readEscape] at h
  | cons b bs =>
    simp only [readEscape] at h
    split at h
    · simp only [Except.ok.injEq, Prod.mk.injEq] at h
      simp [← h.2]
    · split at h
      · exact Nat.lt_succ_of_lt (readCodeUnit_length_lt h)
      · simp at h

/-! ## Strings -/

/-- Whether a byte of a string stands for itself. -/
def isPlain (b : UInt8) : Bool :=
  0x20 ≤ b && b != 0x22 && b != 0x5C

/-- Reads what follows the opening quote of a string; answers the bytes that it holds. -/
def readContent (bs : Bytes) : Except Fault (Bytes × Bytes) :=
  let segment := bs.takeWhile isPlain
  match _hd : bs.dropWhile isPlain with
  | [] => .error (.before [] .endOfString)
  | b :: rest =>
    if b = 0x22 then .ok (segment, rest)
    else if b = 0x5C then
      match _he : readEscape rest with
      | .error f => .error f
      | .ok (c, rest') =>
        (readContent rest').map fun p => (segment ++ Text.encode [c] ++ p.1, p.2)
    else .error (.before rest .controlCharacter)
termination_by bs.length
decreasing_by
  have h1 := readEscape_length_lt _he
  have h2 : (bs.dropWhile isPlain).length ≤ bs.length := (List.dropWhile_sublist isPlain).length_le
  rw [_hd, List.length_cons] at h2
  omega

/-- Reads what follows the opening quote of a string. Bytes that are no text are noticed once the
closing quote has been read; the fault shows before as many bytes as the string holds from the
ill-formed place on. -/
def readString (bs : Bytes) : Except Fault (List Char × Bytes) := do
  let (content, rest) ← readContent bs
  match Text.chars content with
  | .ok cs => return (cs, rest)
  | .error bad => throw (.before (bad ++ rest) .invalidCodePoint)

theorem readContent_length_lt {bs content rest : Bytes}
    (h : readContent bs = .ok (content, rest)) : rest.length < bs.length := by
  fun_induction readContent bs generalizing content rest with
  | case1 => cases h
  | case2 bs =>
    have hl := (List.dropWhile_sublist isPlain (l := bs)).length_le
    grind
  | case3 => cases h
  | case4 bs =>
    obtain ⟨p, hr, hp⟩ := of_map_eq_ok h
    have hl := (List.dropWhile_sublist isPlain (l := bs)).length_le
    have he := readEscape_length_lt (by assumption)
    rename_i ih
    have := ih (Prod.eta p ▸ hr)
    grind
  | case5 => cases h

theorem readString_length_lt {bs rest : Bytes} {cs : List Char}
    (h : readString bs = .ok (cs, rest)) : rest.length < bs.length := by
  obtain ⟨⟨content, rest'⟩, hc, h⟩ := of_bind_eq_ok h
  have hl := readContent_length_lt hc
  cases ht : Text.chars content <;> simp only [ht] at h <;> cases h
  exact hl

end AgeReport.Json
