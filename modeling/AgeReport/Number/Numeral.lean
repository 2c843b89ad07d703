import AgeReport.Number.Decimal

/-!
# Decimal numerals with bounds

Reading an optional sign and decimal digits as an integer between two bounds. The digits are read
from left to right and the first fault ends the reading: a character that is no digit, or a value
that has left the bounds. A sign alone has no digit where one has to stand.

* `accumulate_nil`, `accumulate_cons`: one step of the reading;
* `read_nil`: the empty text has a fault of its own.
-/

namespace AgeReport

/-- Why a text is no numeral within the bounds. -/
inductive NumeralFault
  /-- There is nothing to read. -/
  | empty
  /-- Something other than a digit. -/
  | invalidDigit
  /-- The value is above the upper bound. -/
  | tooLarge
  /-- The value is below the lower bound. -/
  | tooSmall
deriving DecidableEq, Repr

/-- The wording of a fault. -/
def NumeralFault.message : NumeralFault → String
  | empty => "cannot parse integer from empty string"
  | invalidDigit => "invalid digit found in string"
  | tooLarge => "number too large to fit in target type"
  | tooSmall => "number too small to fit in target type"

namespace Numeral

/-- The least and the greatest value that a numeral may have. -/
structure Bounds where
  least : Int
  greatest : Int
deriving DecidableEq, Repr

/-- The bounds of a year. -/
def Bounds.year : Bounds := ⟨-2147483648, 2147483647⟩

/-- The bounds of an age. -/
def Bounds.age : Bounds := ⟨-9223372036854775808, 9223372036854775807⟩

/-- The bounds of an unsigned word. -/
def Bounds.word : Bounds := ⟨0, 18446744073709551615⟩

/-- Whether a value lies within the bounds. -/
def Bounds.contains (b : Bounds) (v : Int) : Bool :=
  b.least ≤ v && v ≤ b.greatest

/-- Appends a digit to a value, away from zero. -/
def append (negative : Bool) (v : Int) (d : Nat) : Int :=
  if negative then v * 10 - d else v * 10 + d

/-- Reads further digits after the value `v`. -/
def accumulate (b : Bounds) (negative : Bool) (v : Int) : List Char → Except NumeralFault Int
  | [] => .ok v
  | c :: cs =>
    match Decimal.digit? c with
    | none => .error .invalidDigit
    | some d =>
      let w := append negative v d
      if w < b.least then .error .tooSmall
      else if b.greatest < w then .error .tooLarge
      else accumulate b negative w cs

/-- Reads at least one digit. -/
def readDigits (b : Bounds) (negative : Bool) (cs : List Char) : Except NumeralFault Int :=
  if cs = [] then .error .invalidDigit else accumulate b negative 0 cs

/-- Reads a numeral: an optional sign and at least one digit. -/
def read (b : Bounds) : List Char → Except NumeralFault Int
  | [] => .error .empty
  | c :: cs =>
    if c = '+' then readDigits b false cs
    else if c = '-' then readDigits b true cs
    else readDigits b false (c :: cs)

theorem Bounds.contains_iff {b : Bounds} {v : Int} :
    b.contains v = true ↔ b.least ≤ v ∧ v ≤ b.greatest := by
  rw [contains, Bool.and_eq_true, decide_eq_true_eq, decide_eq_true_eq]

theorem accumulate_nil (b : Bounds) (negative : Bool) (v : Int) :
    accumulate b negative v [] = .ok v := rfl

theorem accumulate_cons {b : Bounds} {negative : Bool} {v : Int} {c : Char} {d : Nat}
    (hd : Decimal.digit? c = some d) (hw : b.contains (append negative v d) = true)
    (cs : List Char) :
    accumulate b negative v (c :: cs) = accumulate b negative (append negative v d) cs := by
  rw [Bounds.contains_iff] at hw
  simp [accumulate, hd, Int.not_lt.2 hw.1, Int.not_lt.2 hw.2]

theorem read_nil (b : Bounds) : read b [] = .error .empty := rfl

end Numeral
end AgeReport
