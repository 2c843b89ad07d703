import AgeReport.Json.Text

/-!
# Numbers of JSON texts

A number without fraction and exponent is an integer as long as it fits 64 bits, unsigned or, with
a minus sign, signed; minus zero and everything else is a floating-point number. Digits are
gathered in an unsigned word of 64 bits: further digits before the point only raise the exponent,
further digits behind it are dropped. The word is then scaled by a power of ten in one operation,
so the last bit need not be the nearest.

* `readNumber`: a number whose sign has been read;
* `readNumber_length_lt`: it takes up at least one byte.
-/

namespace AgeReport.Json

/-- The value of a number. -/
inductive Number
  | integer (value : Int)
  | float (value : Float)

/-- A number as a value that was not wanted. -/
def Number.found : Number → Found
  | .integer n => .integer n
  | .float f => .float f

/-! ## Scaling -/

/-- The limit of an unsigned word. -/
def wordLimit : Nat := 18446744073709551616

/-- The limit of the magnitudes of negative integers. -/
def signedLimit : Nat := 9223372036854775808

/-- The limit of the exponents that are read digit by digit. -/
def exponentLimit : Nat := 2147483648

/-- The greatest power of ten that is scaled by at once. -/
def greatestPower : Nat := 308

/-- A power of ten as a floating-point number. -/
def powerOfTen (n : Nat) : Float :=
  Float.ofScientific 1 false n

/-- Divides by a power of ten. -/
def scaleDown (f : Float) (n : Nat) : Float :=
  if n ≤ greatestPower then f / powerOfTen n
  else if f == 0 then f
  else scaleDown (f / powerOfTen greatestPower) (n - greatestPower)
termination_by n
decreasing_by
  have : greatestPower = 308 := rfl
  omega

/-- Multiplies by a power of ten, if the product is finite. -/
def scaleUp (f : Float) (n : Nat) : Option Float :=
  if n ≤ greatestPower then
    let product := f * powerOfTen n
    if product.isInf then none else some product
  else if f == 0 then some f
  else none

/-- The floating-point number of a significand, an exponent of ten and a sign, if it is finite. -/
def floatOf? (positive : Bool) (significand : Nat) (exponent : Int) : Option Float :=
  let f := significand.toUInt64.toFloat
  let magnitude :=
    if 0 ≤ exponent then scaleUp f exponent.toNat else some (scaleDown f (-exponent).toNat)
  magnitude.map fun g => if positive then g else -g

/-- Ends a floating-point number before `rest`. -/
def endFloat (positive : Bool) (significand : Nat) (exponent : Int) : Reader Number :=
  fun rest =>
    match floatOf? positive significand exponent with
    | some f => .ok (.float f, rest)
    | none => .error (.before rest .numberOutOfRange)

/-! ## Exponents -/

/-- Drops the digits at the beginning. -/
def skipDigits (bs : Bytes) : Bytes :=
  bs.dropWhile Decimal.isDigitByte

/-- Ends a number whose exponent is beyond all limits. -/
def endHuge (positive : Bool) (significand : Nat) (upward : Bool) : Reader Number :=
  fun rest =>
    if upward && significand != 0 then .error (.before rest .numberOutOfRange)
    else .ok (.float (if positive then 0 else -0), skipDigits rest)

/-- Reads further digits of an exponent. -/
def readExponentDigits (positive : Bool) (significand : Nat) (start : Int) (upward : Bool)
    (exponent : Nat) : Reader Number
  | [] => finish []
  | b :: bs =>
    match Decimal.digitByte? b with
    | none => finish (b :: bs)
    | some d =>
      if exponentLimit ≤ exponent * 10 + d then endHuge positive significand upward bs
      else readExponentDigits positive significand start upward (exponent * 10 + d) bs
where
  /-- Scales by the exponent that has been read. -/
  finish (rest : Bytes) : Except Fault (Number × Bytes) :=
    endFloat positive significand (if upward then start + exponent else start - exponent) rest

/-- Reads the digits of an exponent, of which there is at least one. -/
def readExponentValue (positive : Bool) (significand : Nat) (start : Int) (upward : Bool) :
    Reader Number
  | [] => .error (.before [] .endOfValue)
  | b :: bs =>
    match Decimal.digitByte? b with
    | none => .error (.before bs .invalidNumber)
    | some d => readExponentDigits positive significand start upward d bs

/-- Reads what follows the `e` of a number. -/
def readExponent (positive : Bool) (significand : Nat) (start : Int) : Reader Number
  | 0x2B :: bs => readExponentValue positive significand start true bs
  | 0x2D :: bs => readExponentValue positive significand start false bs
  | bs => readExponentValue positive significand start true bs

/-- Whether a byte begins an exponent. -/
def isExponentMark (b : UInt8) : Bool :=
  b == 0x65 || b == 0x45

/-- Reads an exponent if there is one, and ends the number. -/
def endFraction (positive : Bool) (significand : Nat) (exponent : Int) : Reader Number
  | [] => endFloat positive significand exponent []
  | b :: bs =>
    if isExponentMark b then readExponent positive significand exponent bs
    else endFloat positive significand exponent (b :: bs)

/-! ## Fractions -/

/-- Reads further digits behind the point; `started` says that there is one already. -/
def readFractionDigits (positive : Bool) (significand : Nat) (exponent : Int) (started : Bool) :
    Reader Number
  | [] =>
    if started then endFraction positive significand exponent []
    else .error (.atNext [] .endOfValue)
  | b :: bs =>
    match Decimal.digitByte? b with
    | none =>
      if started then endFraction positive significand exponent (b :: bs)
      else .error (.atNext (b :: bs) .invalidNumber)
    | some d =>
      if wordLimit ≤ significand * 10 + d then
        endFraction positive significand exponent (skipDigits bs)
      else readFractionDigits positive (significand * 10 + d) (exponent - 1) true bs

/-! ## Whole parts -/

/-- Reads digits before the point that no longer fit the significand. -/
def readLongWhole (positive : Bool) (significand : Nat) (exponent : Int) : Reader Number
  | [] => endFloat positive significand exponent []
  | b :: bs =>
    if Decimal.isDigitByte b then readLongWhole positive significand (exponent + 1) bs
    else if b = 0x2E then readFractionDigits positive significand exponent false bs
    else endFraction positive significand exponent (b :: bs)

/-- A number that ends after its whole part. -/
def wholeNumber (positive : Bool) (significand : Nat) : Number :=
  if positive then .integer significand
  else if significand = 0 ∨ signedLimit < significand then .float (-significand.toUInt64.toFloat)
  else .integer (-significand)

/-- Reads what may follow the whole part of a number. -/
def endWhole (positive : Bool) (significand : Nat) : Reader Number
  | [] => .ok (wholeNumber positive significand, [])
  | b :: bs =>
    if b = 0x2E then readFractionDigits positive significand 0 false bs
    else if isExponentMark b then readExponent positive significand 0 bs
    else .ok (wholeNumber positive significand, b :: bs)

/-- Reads further digits before the point. -/
def readWhole (positive : Bool) (significand : Nat) : Reader Number
  | [] => endWhole positive significand []
  | b :: bs =>
    match Decimal.digitByte? b with
    | none => endWhole positive significand (b :: bs)
    | some d =>
      if wordLimit ≤ significand * 10 + d then readLongWhole positive significand 1 bs
      else readWhole positive (significand * 10 + d) bs

/-- Reads a number whose sign has been read; a zero at its beginning is its whole part. -/
def readNumber (positive : Bool) : Reader Number
  | [] => .error (.before [] .endOfValue)
  | b :: bs =>
    match Decimal.digitByte? b with
    | none => .error (.before bs .invalidNumber)
    | some 0 =>
      match bs with
      | [] => endWhole positive 0 []
      | c :: rest =>
        if Decimal.isDigitByte c then .error (.atNext (c :: rest) .invalidNumber)
        else endWhole positive 0 (c :: rest)
    | some d => readWhole positive d bs

/-! ## What is left -/

theorem skipDigits_length_le (bs : Bytes) : (skipDigits bs).length ≤ bs.length :=
  (List.dropWhile_sublist Decimal.isDigitByte).length_le

theorem endFloat_rest {positive : Bool} {significand : Nat} {exponent : Int} {bs rest : Bytes}
    {n : Number} (h : endFloat positive significand exponent bs = .ok (n, rest)) : rest = bs := by
  grind [endFloat]

theorem readExponentDigits_length_le {positive upward : Bool} {significand exponent : Nat}
    {start : Int} {bs rest : Bytes} {n : Number}
    (h : readExponentDigits positive significand start upward exponent bs = .ok (n, rest)) :
    rest.length ≤ bs.length := by
  induction bs generalizing exponent with
  | nil => grind [readExponentDigits, readExponentDigits.finish, → endFloat_rest]
  | cons b bs ih =>
    have := skipDigits_length_le bs
    grind [readExponentDigits, readExponentDigits.finish, → endFloat_rest, endHuge]

theorem readExponentValue_length_le {positive upward : Bool} {significand : Nat}
    {start : Int} {bs rest : Bytes} {n : Number}
    (h : readExponentValue positive significand start upward bs = .ok (n, rest)) :
    rest.length ≤ bs.length := by
  cases bs with
  | nil => cases h
  | cons b bs => grind [readExponentValue, → readExponentDigits_length_le]

theorem readExponent_length_le {positive : Bool} {significand : Nat}
    {start : Int} {bs rest : Bytes} {n : Number}
    (h : readExponent positive significand start bs = .ok (n, rest)) :
    rest.length ≤ bs.length := by
  unfold readExponent at h
  split at h <;> grind [→ readExponentValue_length_le]

theorem endFraction_length_le {positive : Bool} {significand : Nat}
    {exponent : Int} {bs rest : Bytes} {n : Number}
    (h : endFraction positive significand exponent bs = .ok (n, rest)) :
    rest.length ≤ bs.length := by
  cases bs with
  | nil => grind [endFraction, → endFloat_rest]
  | cons b bs => grind [endFraction, → endFloat_rest, → readExponent_length_le]

theorem readFractionDigits_length_le {positive started : Bool} {significand : Nat}
    {exponent : Int} {bs rest : Bytes} {n : Number}
    (h : readFractionDigits positive significand exponent started bs = .ok (n, rest)) :
    rest.length ≤ bs.length := by
  induction bs generalizing significand exponent started with
  | nil => grind [readFractionDigits, → endFraction_length_le]
  | cons b bs ih =>
    have := skipDigits_length_le bs
    grind [readFractionDigits, → endFraction_length_le]

theorem readLongWhole_length_le {positive : Bool} {significand : Nat}
    {exponent : Int} {bs rest : Bytes} {n : Number}
    (h : readLongWhole positive significand exponent bs = .ok (n, rest)) :
    rest.length ≤ bs.length := by
  induction bs generalizing exponent with
  | nil => grind [readLongWhole, → endFloat_rest]
  | cons b bs ih =>
    grind [readLongWhole, → readFractionDigits_length_le, → endFraction_length_le]

theorem endWhole_length_le {positive : Bool} {significand : Nat} {bs rest : Bytes} {n : Number}
    (h : endWhole positive significand bs = .ok (n, rest)) : rest.length ≤ bs.length := by
  cases bs with
  | nil => grind [endWhole]
  | cons b bs => grind [endWhole, → readFractionDigits_length_le, → readExponent_length_le]

theorem readWhole_length_le {positive : Bool} {significand : Nat} {bs rest : Bytes} {n : Number}
    (h : readWhole positive significand bs = .ok (n, rest)) : rest.length ≤ bs.length := by
  induction bs generalizing significand with
  | nil => grind [readWhole, → endWhole_length_le]
  | cons b bs ih => grind [readWhole, → endWhole_length_le, → readLongWhole_length_le]

theorem readNumber_length_lt {positive : Bool} {bs rest : Bytes} {n : Number}
    (h : readNumber positive bs = .ok (n, rest)) : rest.length < bs.length := by
  unfold readNumber at h
  split at h
  · cases h
  · split at h
    · cases h
    · split at h
      · have := endWhole_length_le h
        grind
      · split at h
        · cases h
        · have := endWhole_length_le h
          grind
    · have := readWhole_length_le h
      grind

end AgeReport.Json
