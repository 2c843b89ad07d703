import AgeReport.Json.Skip

/-!
# The parts of values

What records and lists are read with: values that are only named in a message, integers within
bounds, and the ways to the next element of an array and to the next name of an object. A value is
read as soon as its bytes come, so the first fault from left to right is the one that shows.

* `readInteger_length_lt`: an integer takes up at least one byte;
* `toElement_length_le`, `toName_length_le`: going on never goes back.
-/

namespace AgeReport.Json

/-! ## Values that are not wanted -/

/-- Reads a value of any form as far as a message has to name it: a scalar is read, a list or an
object is not. -/
def readFound : Reader Found
  | [] => .error (.atNext [] .valueExpected)
  | b :: bs =>
    if b = 0x6E then (readWord nullTail bs).map fun rest => (.null, rest)
    else if b = 0x74 then (readWord trueTail bs).map fun rest => (.boolean true, rest)
    else if b = 0x66 then (readWord falseTail bs).map fun rest => (.boolean false, rest)
    else if b = 0x2D then (readNumber false bs).map fun p => (p.1.found, p.2)
    else if Decimal.isDigitByte b then (readNumber true (b :: bs)).map fun p => (p.1.found, p.2)
    else if b = 0x22 then (readString bs).map fun p => (.string (String.ofList p.1), p.2)
    else if b = 0x5B then .ok (.sequence, b :: bs)
    else if b = 0x7B then .ok (.map, b :: bs)
    else .error (.atNext (b :: bs) .valueExpected)

/-- The fault of a value that is not of the expected form. -/
def unwanted (expected : String) (bs : Bytes) : Fault :=
  match readFound bs with
  | .ok (found, rest) => .before rest (.wrongType found expected)
  | .error f => f

/-! ## Integers -/

/-- The integers that a field may hold. -/
structure IntegerType where
  name : String
  bounds : Numeral.Bounds

/-- Years. -/
def IntegerType.year : IntegerType := ⟨"i32", .year⟩

/-- Ages. -/
def IntegerType.age : IntegerType := ⟨"i64", .age⟩

/-- Takes a number as an integer within the bounds. -/
def IntegerType.accept (t : IntegerType) (n : Number) (rest : Bytes) : Except Fault (Int × Bytes) :=
  match n with
  | .float f => .error (.before rest (.wrongType (.float f) t.name))
  | .integer v =>
    if t.bounds.contains v then .ok (v, rest) else .error (.before rest (.wrongValue v t.name))

theorem accept_rest {t : IntegerType} {n : Number} {bs rest : Bytes} {v : Int}
    (h : t.accept n bs = .ok (v, rest)) : rest = bs := by
  cases n <;> grind [IntegerType.accept]

/-- Reads an integer within the bounds. -/
def readInteger (t : IntegerType) (bs : Bytes) : Except Fault (Int × Bytes) :=
  match skipSpace bs with
  | [] => .error (.atNext [] .endOfValue)
  | b :: rest =>
    if b = 0x2D then do
      let (n, rest) ← readNumber false rest
      t.accept n rest
    else if Decimal.isDigitByte b then do
      let (n, rest) ← readNumber true (b :: rest)
      t.accept n rest
    else .error (unwanted t.name (b :: rest))

theorem readInteger_length_lt {t : IntegerType} {bs rest : Bytes} {v : Int}
    (h : readInteger t bs = .ok (v, rest)) : rest.length < bs.length := by
  have := skipSpace_length_le bs
  unfold readInteger at h
  grind [→ of_bind_eq_ok, → readNumber_length_lt, → accept_rest]

/-! ## The parts of arrays and objects -/

/-- Goes to the next element of an array, past a comma unless it is the first; answers whether
there is one. -/
def toElement (first : Bool) (bs : Bytes) : Except Fault (Bool × Bytes) :=
  match skipSpace bs with
  | [] => .error (.atNext [] .endOfList)
  | b :: rest =>
    if b = 0x5D then .ok (false, b :: rest)
    else if first then .ok (true, b :: rest)
    else if b = 0x2C then
      match skipSpace rest with
      | [] => .error (.atNext [] .endOfValue)
      | c :: rest' =>
        if c = 0x5D then .error (.atNext (c :: rest') .trailingComma) else .ok (true, c :: rest')
    else .error (.atNext (b :: rest) .listSeparatorExpected)

theorem toElement_length_le {first more : Bool} {bs rest : Bytes}
    (h : toElement first bs = .ok (more, rest)) : rest.length ≤ bs.length := by
  have h1 := skipSpace_length_le bs
  have h2 (l : Bytes) := skipSpace_length_le l
  grind [toElement]

/-- Goes into the name of the next member of an object, past a comma unless it is the first, and
past its opening quote; answers whether there is one. -/
def toName (first : Bool) (bs : Bytes) : Except Fault (Bool × Bytes) :=
  match skipSpace bs with
  | [] => .error (.atNext [] .endOfObject)
  | b :: rest =>
    if b = 0x7D then .ok (false, b :: rest)
    else if first then
      if b = 0x22 then .ok (true, rest) else .error (.atNext (b :: rest) .nameNotString)
    else if b = 0x2C then
      match skipSpace rest with
      | [] => .error (.atNext [] .endOfValue)
      | c :: rest' =>
        if c = 0x22 then .ok (true, rest')
        else if c = 0x7D then .error (.atNext (c :: rest') .trailingComma)
        else .error (.atNext (c :: rest') .nameNotString)
    else .error (.atNext (b :: rest) .objectSeparatorExpected)

theorem toName_length_le {first more : Bool} {bs rest : Bytes}
    (h : toName first bs = .ok (more, rest)) : rest.length ≤ bs.length := by
  have h2 (l : Bytes) := skipSpace_length_le l
  grind [toName]

/-- Passes over the end of an array. -/
def endArray (bs : Bytes) : Except Fault Bytes :=
  match skipSpace bs with
  | [] => .error (.atNext [] .endOfList)
  | b :: rest =>
    if b = 0x5D then .ok rest
    else if b = 0x2C then
      match skipSpace rest with
      | 0x5D :: rest' => .error (.atNext (0x5D :: rest') .trailingComma)
      | other => .error (.atNext other .trailingCharacters)
    else .error (.atNext (b :: rest) .trailingCharacters)

theorem endArray_length_lt {bs rest : Bytes} (h : endArray bs = .ok rest) :
    rest.length < bs.length := by
  have := skipSpace_length_le bs
  grind [endArray]

/-- What follows the place at which an object is given up: blanks and a closing byte do not
count. -/
def giveUpObject (bs : Bytes) : Bytes :=
  match skipSpace bs with
  | 0x7D :: rest => rest
  | other => other

end AgeReport.Json
