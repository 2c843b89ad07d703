import AgeReport.Proofs.Json.Scalars
import AgeReport.Proofs.Text.Utf8

/-!
# The grammar of JSON texts

Which bytes are numbers, strings and values, said without any reader. A value is a word, a number,
a string, or a list or an object; blanks may stand around each part of a list or an object, a comma
stands between each two of them, and nothing bounds their number, their size or their depth.

* `NumberText`, `IntegerText`: the numbers, and those among them that are integers.
* `StringBody`, `Unescapes`: what stands between quotes, and the characters that it stands for.
* `WellFormed`: the values, and the parts of lists and objects.
-/

namespace AgeReport.Json

open Decimal Numeral

/-! ## Numbers -/

/-- The sign of a number. -/
def minus (negative : Bool) : Bytes :=
  if negative then [0x2D] else []

/-- Nothing, or a point and digits. -/
inductive FractionText : Bytes → Prop
  | none : FractionText []
  | point {cs : List Char} (h : IsDigits cs) : FractionText (0x2E :: Text.encode cs)

/-- Nothing, or a mark, a sign if there is one, and digits. -/
inductive ExponentText : Bytes → Prop
  | none : ExponentText []
  | mark {e : UInt8} {sign : Bytes} {cs : List Char} (he : e = 0x65 ∨ e = 0x45)
    (hsign : sign = [] ∨ sign = [0x2B] ∨ sign = [0x2D]) (h : IsDigits cs) :
    ExponentText (e :: (sign ++ Text.encode cs))

/-- The text of a number: its sign, its whole part, its fraction and its exponent. -/
inductive NumberText : Bytes → Prop
  | intro (negative : Bool) {cs : List Char} {fraction exponent : Bytes} (hwhole : WholePart cs)
    (hfraction : FractionText fraction) (hexponent : ExponentText exponent) :
    NumberText (minus negative ++ (Text.encode cs ++ (fraction ++ exponent)))

/-- The text of the integer `n`: a number without fraction and exponent, other than `-0`. -/
inductive IntegerText : Bytes → Int → Prop
  | intro (negative : Bool) {cs : List Char} (hwhole : WholePart cs)
    (hzero : negative = true → cs ≠ ['0']) :
    IntegerText (minus negative ++ Text.encode cs) (signed negative (valueFrom 0 cs))

/-! ## Strings -/

/-- Four digits to base 16, and the code unit that they name. -/
inductive UnitText : Bytes → Nat → Prop
  | intro {a b c d : UInt8} {i j k l : Nat} (ha : hexDigit? a = some i) (hb : hexDigit? b = some j)
    (hc : hexDigit? c = some k) (hd : hexDigit? d = some l) :
    UnitText [a, b, c, d] (((i * 16 + j) * 16 + k) * 16 + l)

/-- What may stand between the quotes of a string: bytes that stand for themselves, and escapes.
A code unit that is named by its number need not be a character. -/
inductive StringBody : Bytes → Prop
  | nil : StringBody []
  | plain {b : UInt8} {bs : Bytes} (hb : isPlain b = true) (h : StringBody bs) :
    StringBody (b :: bs)
  | short {b : UInt8} {c : Char} {bs : Bytes} (hb : shortEscape? b = some c) (h : StringBody bs) :
    StringBody (0x5C :: b :: bs)
  | unit {u bs : Bytes} {n : Nat} (hu : UnitText u n) (h : StringBody bs) :
    StringBody (0x5C :: 0x75 :: (u ++ bs))

/-- The characters that stand between the quotes of a string, as themselves or as escapes. Code
units beyond the first plane are named in pairs. -/
inductive Unescapes : Bytes → List Char → Prop
  | nil : Unescapes [] []
  | char {c : Char} {bs : Bytes} {cs : List Char} (hc : 0x20 ≤ c.toNat ∧ c ≠ '"' ∧ c ≠ '\\')
    (h : Unescapes bs cs) : Unescapes (String.utf8EncodeChar c ++ bs) (c :: cs)
  | short {b : UInt8} {c : Char} {bs : Bytes} {cs : List Char} (hb : shortEscape? b = some c)
    (h : Unescapes bs cs) : Unescapes (0x5C :: b :: bs) (c :: cs)
  | unit {u bs : Bytes} {n : Nat} {cs : List Char} (hu : UnitText u n)
    (hn : isLeading n = false ∧ isTrailing n = false) (h : Unescapes bs cs) :
    Unescapes (0x5C :: 0x75 :: (u ++ bs)) (Char.ofNat n :: cs)
  | pair {u v bs : Bytes} {high low : Nat} {cs : List Char} (hu : UnitText u high)
    (hv : UnitText v low) (hhigh : isLeading high = true) (hlow : isTrailing low = true)
    (h : Unescapes bs cs) :
    Unescapes (0x5C :: 0x75 :: (u ++ 0x5C :: 0x75 :: (v ++ bs)))
      (Char.ofNat ((high - 0xD800) * 1024 + (low - 0xDC00) + 0x10000) :: cs)

/-! ## Values -/

/-- What bytes are to be: a value, or a part of a list or an object. -/
inductive Role
  | value
  | part (bracket : Bracket)

/-- Parts with a comma between each two of them. -/
def separated (parts : List Bytes) : Bytes :=
  [0x2C].intercalate parts

/-- The bytes of a value, or of a part of a list or an object with the blanks around it. -/
inductive WellFormed : Role → Bytes → Prop
  | word {w : String} (hw : w ∈ ["null", "true", "false"]) : WellFormed .value (Text.bytes w)
  | number {v : Bytes} (hv : NumberText v) : WellFormed .value v
  | string {body : Bytes} (hbody : StringBody body) :
    WellFormed .value (0x22 :: (body ++ [0x22]))
  | group (bracket : Bracket) (parts : List Bytes) {sp : Bytes}
    (hparts : ∀ p ∈ parts, WellFormed (.part bracket) p) (hsp : Blank sp) :
    WellFormed .value (bracket.opening :: (separated parts ++ (sp ++ [bracket.closing])))
  | element {before v after : Bytes} (hbefore : Blank before) (hv : WellFormed .value v)
    (hafter : Blank after) : WellFormed (.part .list) (before ++ (v ++ after))
  | member {before body sp sp' v after : Bytes} (hbefore : Blank before) (hbody : StringBody body)
    (hsp : Blank sp) (hsp' : Blank sp') (hv : WellFormed .value v) (hafter : Blank after) :
    WellFormed (.part .object)
      (before ++ 0x22 :: (body ++ 0x22 :: (sp ++ 0x3A :: (sp' ++ (v ++ after)))))

theorem separated_nil : separated [] = [] := rfl

theorem separated_cons (p : Bytes) (parts : List Bytes) :
    separated (p :: parts) = p ++ parts.flatMap (0x2C :: ·) := by
  induction parts generalizing p with
  | nil => simp [separated]
  | cons q parts ih =>
    have hcons : separated (p :: q :: parts) = p ++ 0x2C :: separated (q :: parts) := by
      simp [separated, List.intercalate_cons_cons]
    rw [hcons, ih, List.flatMap_cons, List.cons_append]

/-- An integer is a number. -/
theorem IntegerText.numberText {v : Bytes} {n : Int} (h : IntegerText v n) : NumberText v := by
  cases h with
  | intro negative hwhole _ =>
    have hnumber := NumberText.intro negative hwhole .none .none
    simpa using hnumber

/-- The integers are the decimal texts. -/
theorem integerText_bytes (n : Int) : IntegerText (Decimal.bytes n) n := by
  cases n with
  | ofNat n =>
    have h := IntegerText.intro false (wholePart_digits n) (by simp)
    rw [valueFrom_digits] at h
    exact h
  | negSucc n =>
    have hzero : digits (n + 1) ≠ ['0'] := by
      intro h
      exact head?_digits_ne (Nat.succ_pos n) (by rw [h, List.head?_cons])
    have h := IntegerText.intro true (wholePart_digits (n + 1)) fun _ => hzero
    rw [valueFrom_digits] at h
    exact h

theorem eq_of_encode_eq {cs ds : List Char} (h : Text.encode cs = Text.encode ds) : cs = ds := by
  have hcs : Text.chars (Text.encode cs) = .ok cs := Text.chars_eq_ok_iff.2 rfl
  rw [Text.chars_eq_ok_iff.2 h] at hcs
  cases hcs
  rfl

/-- A text is that of one integer only. -/
theorem IntegerText.unique {v : Bytes} {m n : Int} (hm : IntegerText v m) (hn : IntegerText v n) :
    m = n := by
  cases hm with
  | @intro negative cs hcs _ =>
    generalize htext : minus negative ++ Text.encode cs = text at hn
    cases hn with
    | @intro negative' ds hds _ =>
      obtain ⟨c, bs, hc, hcdigit⟩ := exists_encode_of_isDigits hcs.digits
      obtain ⟨d, bs', hd, hddigit⟩ := exists_encode_of_isDigits hds.digits
      have hcminus : c ≠ 0x2D := ne_of_isDigitByte hcdigit (by decide)
      have hdminus : d ≠ 0x2D := ne_of_isDigitByte hddigit (by decide)
      -- the first byte tells the sign
      have hsign : negative = negative' := by
        cases negative <;> cases negative' <;> simp_all [minus]
      subst hsign
      rw [eq_of_encode_eq (List.append_cancel_left htext)]

end AgeReport.Json
