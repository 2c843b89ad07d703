import AgeReport.Json.Number

/-!
# Skipping values of JSON texts

The value of a member that nobody asked for is passed over. Only its form matters: strings need
not be well-formed, pairs of code units need not be complete, numbers may be of any size, and
arrays and objects may be nested to any depth. The brackets that are open are kept in a list, so
the depth costs nothing but that list.

* `skipValue`: what follows a value;
* `skipPart_length_lt`: each part takes up a byte, so skipping comes to an end.
-/

namespace AgeReport.Json

/-! ## Strings and numbers -/

/-- Passes over what follows a backslash in a string. -/
def skipEscape : Bytes → Except Fault Bytes
  | [] => .error (.before [] .endOfString)
  | b :: bs =>
    if (shortEscape? b).isSome then .ok bs
    else if b = 0x75 then (readHex bs).map Prod.snd
    else .error (.before bs .invalidEscape)

theorem skipEscape_length_lt {bs rest : Bytes} (h : skipEscape bs = .ok rest) :
    rest.length < bs.length := by
  cases bs with
  | nil => simp [skipEscape] at h
  | cons b bs =>
    simp only [skipEscape] at h
    split at h
    · simp only [Except.ok.injEq] at h
      simp [← h]
    · split at h
      · cases hx : readHex bs with
        | error f => simp [hx, Except.map] at h
        | ok p =>
          have hlt := readHex_length_lt hx
          simp only [hx, Except.map, Except.ok.injEq] at h
          rw [← h]
          exact Nat.lt_succ_of_lt hlt
      · simp at h

/-- Passes over what follows the opening quote of a string. -/
def skipString (bs : Bytes) : Except Fault Bytes :=
  match _hd : bs.dropWhile isPlain with
  | [] => .error (.before [] .endOfString)
  | b :: rest =>
    if b = 0x22 then .ok rest
    else if b = 0x5C then
      match _he : skipEscape rest with
      | .error f => .error f
      | .ok rest' => skipString rest'
    else .error (.before (b :: rest) .controlCharacter)
termination_by bs.length
decreasing_by
  have h1 := skipEscape_length_lt _he
  have h2 : (bs.dropWhile isPlain).length ≤ bs.length := (List.dropWhile_sublist isPlain).length_le
  rw [_hd, List.length_cons] at h2
  omega

theorem skipString_length_lt {bs rest : Bytes} (h : skipString bs = .ok rest) :
    rest.length < bs.length := by
  fun_induction skipString bs with
  | case1 => cases h
  | case2 bs =>
    have hl := (List.dropWhile_sublist isPlain (l := bs)).length_le
    grind
  | case3 => cases h
  | case4 bs =>
    have hl := (List.dropWhile_sublist isPlain (l := bs)).length_le
    have he := skipEscape_length_lt (by assumption)
    grind
  | case5 => cases h

/-- Passes over the digits of an exponent, of which there is at least one. -/
def skipExponentValue : Bytes → Except Fault Bytes
  | [] => .error (.before [] .invalidNumber)
  | b :: bs =>
    if Decimal.isDigitByte b then .ok (skipDigits bs) else .error (.before bs .invalidNumber)

theorem skipExponentValue_length_le {bs rest : Bytes} (h : skipExponentValue bs = .ok rest) :
    rest.length ≤ bs.length := by
  cases bs with
  | nil => cases h
  | cons b bs =>
    have := skipDigits_length_le bs
    grind [skipExponentValue]

/-- Passes over what follows the `e` of a number. -/
def skipExponent : Bytes → Except Fault Bytes
  | 0x2B :: bs => skipExponentValue bs
  | 0x2D :: bs => skipExponentValue bs
  | bs => skipExponentValue bs

theorem skipExponent_length_le {bs rest : Bytes} (h : skipExponent bs = .ok rest) :
    rest.length ≤ bs.length := by
  unfold skipExponent at h
  split at h <;> grind [→ skipExponentValue_length_le]

/-- Passes over an exponent if there is one. -/
def skipOptionalExponent : Bytes → Except Fault Bytes
  | [] => .ok []
  | b :: bs => if isExponentMark b then skipExponent bs else .ok (b :: bs)

theorem skipOptionalExponent_length_le {bs rest : Bytes} (h : skipOptionalExponent bs = .ok rest) :
    rest.length ≤ bs.length := by
  cases bs <;> grind [skipOptionalExponent, → skipExponent_length_le]

/-- Passes over what follows the point of a number. -/
def skipFraction : Bytes → Except Fault Bytes
  | [] => .error (.atNext [] .invalidNumber)
  | b :: bs =>
    if Decimal.isDigitByte b then skipOptionalExponent (skipDigits bs)
    else .error (.atNext (b :: bs) .invalidNumber)

theorem skipFraction_length_le {bs rest : Bytes} (h : skipFraction bs = .ok rest) :
    rest.length ≤ bs.length := by
  cases bs with
  | nil => cases h
  | cons b bs =>
    have := skipDigits_length_le bs
    grind [skipFraction, → skipOptionalExponent_length_le]

/-- Passes over a fraction and an exponent if there are any. -/
def skipOptionalFraction : Bytes → Except Fault Bytes
  | [] => .ok []
  | b :: bs => if b = 0x2E then skipFraction bs else skipOptionalExponent (b :: bs)

theorem skipOptionalFraction_length_le {bs rest : Bytes} (h : skipOptionalFraction bs = .ok rest) :
    rest.length ≤ bs.length := by
  cases bs <;>
    grind [skipOptionalFraction, → skipFraction_length_le, → skipOptionalExponent_length_le]

/-- Passes over a number whose sign has been read. -/
def skipNumber : Bytes → Except Fault Bytes
  | [] => .error (.before [] .invalidNumber)
  | b :: bs =>
    match Decimal.digitByte? b with
    | none => .error (.before bs .invalidNumber)
    | some 0 =>
      match bs with
      | [] => .ok []
      | c :: rest =>
        if Decimal.isDigitByte c then .error (.atNext (c :: rest) .invalidNumber)
        else skipOptionalFraction (c :: rest)
    | some _ => skipOptionalFraction (skipDigits bs)

theorem skipNumber_length_lt {bs rest : Bytes} (h : skipNumber bs = .ok rest) :
    rest.length < bs.length := by
  unfold skipNumber at h
  split at h
  · cases h
  · rename_i b bs
    have := skipDigits_length_le bs
    split at h
    · cases h
    · split at h <;> grind [→ skipOptionalFraction_length_le]
    · grind [→ skipOptionalFraction_length_le]

/-! ## Nested values -/

namespace Bracket

/-- What is wrong if the text ends inside. -/
def atEnd : Bracket → Cause
  | list => .endOfList
  | object => .endOfObject

/-- What is wrong if a value is followed by neither a comma nor the closing byte. -/
def separatorExpected : Bracket → Cause
  | list => .listSeparatorExpected
  | object => .objectSeparatorExpected

end Bracket

/-- The beginning of a value. -/
inductive Opening
  /-- The value is complete. -/
  | scalar (rest : Bytes)
  /-- A bracket has been opened. -/
  | bracket (bracket : Bracket) (rest : Bytes)

/-- What follows the beginning of a value. -/
def Opening.rest : Opening → Bytes
  | scalar rest => rest
  | bracket _ rest => rest

/-- Passes over a scalar, or over an opening bracket. -/
def skipOpening : Bytes → Except Fault Opening
  | [] => .error (.atNext [] .endOfValue)
  | b :: bs =>
    if b = 0x6E then (readWord nullTail bs).map .scalar
    else if b = 0x74 then (readWord trueTail bs).map .scalar
    else if b = 0x66 then (readWord falseTail bs).map .scalar
    else if b = 0x2D then (skipNumber bs).map .scalar
    else if Decimal.isDigitByte b then (skipNumber (b :: bs)).map .scalar
    else if b = 0x22 then (skipString bs).map .scalar
    else if b = 0x5B then .ok (.bracket .list bs)
    else if b = 0x7B then .ok (.bracket .object bs)
    else .error (.atNext (b :: bs) .valueExpected)

theorem skipOpening_length_lt {bs : Bytes} {o : Opening} (h : skipOpening bs = .ok o) :
    o.rest.length < bs.length := by
  cases bs with
  | nil => cases h
  | cons b bs =>
    unfold skipOpening at h
    grind [Opening.rest, → of_map_eq_ok, → readWord_length_le, → skipNumber_length_lt,
      → skipString_length_lt]

/-- Passes over the colon behind the name of a member. -/
def readColon (bs : Bytes) : Except Fault Bytes :=
  match skipSpace bs with
  | [] => .error (.atNext [] .endOfObject)
  | b :: rest => if b = 0x3A then .ok rest else .error (.atNext (b :: rest) .colonExpected)

theorem readColon_length_lt {bs rest : Bytes} (h : readColon bs = .ok rest) :
    rest.length < bs.length := by
  have := skipSpace_length_le bs
  grind [readColon]

/-- Passes over the name of a member and its colon. -/
def skipName (bs : Bytes) : Except Fault Bytes :=
  match skipSpace bs with
  | [] => .error (.atNext [] .endOfObject)
  | b :: rest =>
    if b = 0x22 then do readColon (← skipString rest)
    else .error (.atNext (b :: rest) .nameNotString)

theorem skipName_length_lt {bs rest : Bytes} (h : skipName bs = .ok rest) :
    rest.length < bs.length := by
  have := skipSpace_length_le bs
  grind [skipName, → of_bind_eq_ok, → readColon_length_lt, → skipString_length_lt]

/-- Closes brackets after a value inside of them, the innermost first, up to the next comma;
answers what is still open and what follows. -/
def closeBrackets : List Bracket → Bytes → Except Fault (List Bracket × Bytes)
  | [], bs => .ok ([], bs)
  | bracket :: outer, bs =>
    match skipSpace bs with
    | [] => .error (.atNext [] bracket.atEnd)
    | b :: rest =>
      if b = 0x2C then .ok (bracket :: outer, rest)
      else if b = bracket.closing then closeBrackets outer rest
      else .error (.atNext (b :: rest) bracket.separatorExpected)

theorem closeBrackets_length_le {brackets brackets' : List Bracket} {bs rest : Bytes}
    (h : closeBrackets brackets bs = .ok (brackets', rest)) : rest.length ≤ bs.length := by
  induction brackets generalizing bs with
  | nil => grind [closeBrackets]
  | cons b outer ih =>
    have := skipSpace_length_le bs
    grind [closeBrackets]

/-- Goes to the next value inside the given brackets, past its name if it has to have one; without
brackets there is none to go to. -/
def toNextValue (brackets : List Bracket) (bs : Bytes) : Except Fault (List Bracket × Bytes) :=
  match brackets with
  | .object :: _ => (skipName bs).map fun rest => (brackets, rest)
  | _ => .ok (brackets, bs)

theorem toNextValue_length_le {brackets brackets' : List Bracket} {bs rest : Bytes}
    (h : toNextValue brackets bs = .ok (brackets', rest)) : rest.length ≤ bs.length := by
  unfold toNextValue at h
  grind [→ of_map_eq_ok, → skipName_length_lt]

/-- Passes over the next scalar or opening bracket, over the brackets that close behind it, and up
to the next value; answers the brackets that are open there. -/
def skipPart (brackets : List Bracket) (bs : Bytes) : Except Fault (List Bracket × Bytes) := do
  match ← skipOpening (skipSpace bs) with
  | .scalar rest =>
    let (brackets, rest) ← closeBrackets brackets rest
    toNextValue brackets rest
  | .bracket b rest =>
    match skipSpace rest with
    | [] => throw (.atNext [] b.atEnd)
    | c :: rest' =>
      if c = b.closing then
        let (brackets, rest) ← closeBrackets brackets rest'
        toNextValue brackets rest
      else toNextValue (b :: brackets) (c :: rest')

theorem skipPart_length_lt {brackets brackets' : List Bracket} {bs rest : Bytes}
    (h : skipPart brackets bs = .ok (brackets', rest)) : rest.length < bs.length := by
  unfold skipPart at h
  obtain ⟨o, ho, h⟩ := of_bind_eq_ok h
  have h1 := skipSpace_length_le bs
  have h2 := skipOpening_length_lt ho
  cases o with
  | scalar left =>
    obtain ⟨p, hc, h⟩ := of_bind_eq_ok h
    have h3 := closeBrackets_length_le hc
    have h4 := toNextValue_length_le h
    simp only [Opening.rest] at h2
    omega
  | bracket b left =>
    have h3 := skipSpace_length_le left
    simp only [Opening.rest] at h2
    dsimp only at h
    split at h
    · cases h
    · rename_i c left' hs
      rw [hs, List.length_cons] at h3
      split at h
      · obtain ⟨p, hc, h⟩ := of_bind_eq_ok h
        have h4 := closeBrackets_length_le hc
        have h5 := toNextValue_length_le h
        omega
      · have h4 := toNextValue_length_le h
        rw [List.length_cons] at h4
        omega

/-- Passes over parts until no bracket is open. -/
def skipParts (brackets : List Bracket) (bs : Bytes) : Except Fault Bytes :=
  match _h : skipPart brackets bs with
  | .error f => .error f
  | .ok ([], rest) => .ok rest
  | .ok (b :: outer, rest) => skipParts (b :: outer) rest
termination_by bs.length
decreasing_by exact skipPart_length_lt _h

/-- What follows the value at the beginning. -/
def skipValue (bs : Bytes) : Except Fault Bytes :=
  skipParts [] bs

theorem skipParts_length_lt {brackets : List Bracket} {bs rest : Bytes}
    (h : skipParts brackets bs = .ok rest) : rest.length < bs.length := by
  fun_induction skipParts brackets bs with
  | case1 => cases h
  | case2 brackets bs left hp =>
    cases h
    exact skipPart_length_lt hp
  | case3 brackets bs b outer left hp ih => exact Nat.lt_trans (ih h) (skipPart_length_lt hp)

theorem skipValue_length_lt {bs rest : Bytes} (h : skipValue bs = .ok rest) :
    rest.length < bs.length :=
  skipParts_length_lt h

end AgeReport.Json
