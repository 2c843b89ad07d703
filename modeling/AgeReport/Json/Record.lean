import AgeReport.Json.Parts

/-!
# Records from JSON texts

Spans and entries are records of two integers. A record is an object, whose members may come in
any order and among others, or an array of its two values.

* `readSpan`, `readEntry`: the two kinds of records;
* `readNextMember_length_lt`: members take up bytes, so an object comes to an end;
* `readRecord_length_lt`: so does a record.
-/

namespace AgeReport.Json

/-! ## Types of records -/

/-- A field of a record. -/
structure Field where
  name : String
  type : IntegerType

/-- A record of two integers. -/
structure RecordType where
  name : String
  first : Field
  second : Field

/-- A span. -/
def RecordType.span : RecordType :=
  ⟨"YearSpan", ⟨"birth_year", .year⟩, ⟨"current_year", .year⟩⟩

/-- An entry. -/
def RecordType.entry : RecordType :=
  ⟨"AgeEntry", ⟨"year", .year⟩, ⟨"age", .age⟩⟩

/-- How messages name a record. -/
def RecordType.describe (t : RecordType) : String :=
  "struct " ++ t.name

/-- The fault of an array that ends after `n` elements, before its closing byte. -/
def RecordType.tooShort (t : RecordType) (n : Nat) (bs : Bytes) : Fault :=
  .before (bs.drop 1) (.wrongLength n (t.describe ++ " with 2 elements"))

/-- Reads element number `n` of a record that is an array. -/
def readSlot (t : RecordType) (n : Nat) (field : Field) (bs : Bytes) :
    Except Fault (Int × Bytes) := do
  let (more, rest) ← toElement (n == 0) bs
  if more then readInteger field.type rest else throw (t.tooShort n rest)

theorem readSlot_length_lt {t : RecordType} {n : Nat} {field : Field} {bs rest : Bytes} {v : Int}
    (h : readSlot t n field bs = .ok (v, rest)) : rest.length < bs.length := by
  unfold readSlot at h
  obtain ⟨⟨more, left⟩, ht, h⟩ := of_bind_eq_ok h
  have h1 := toElement_length_le ht
  dsimp only at h
  split at h
  · have h2 := readInteger_length_lt h
    omega
  · cases h

/-- Reads what follows the opening bracket of a record that is an array. -/
def readPair (t : RecordType) (bs : Bytes) : Except Fault ((Int × Int) × Bytes) := do
  let (a, rest) ← readSlot t 0 t.first bs
  let (b, rest) ← readSlot t 1 t.second rest
  return ((a, b), ← endArray rest)

theorem readPair_length_lt {t : RecordType} {bs rest : Bytes} {v : Int × Int}
    (h : readPair t bs = .ok (v, rest)) : rest.length < bs.length := by
  unfold readPair at h
  obtain ⟨⟨a, left⟩, ha, h⟩ := of_bind_eq_ok h
  obtain ⟨⟨b, left'⟩, hb, h⟩ := of_bind_eq_ok h
  obtain ⟨rest', he, h⟩ := of_bind_eq_ok h
  have h1 := readSlot_length_lt ha
  have h2 := readSlot_length_lt hb
  have h3 := endArray_length_lt he
  cases h
  omega

/-- The values of the fields that have been read. -/
structure Slots where
  first : Option Int := none
  second : Option Int := none

/-- Takes the values of both fields at the end of an object. -/
def Slots.complete (t : RecordType) (s : Slots) (rest : Bytes) :
    Except Fault ((Int × Int) × Bytes) :=
  match s.first, s.second with
  | none, _ => .error (.before rest (.missingField t.first.name))
  | some _, none => .error (.before rest (.missingField t.second.name))
  | some a, some b => .ok ((a, b), rest)

theorem complete_rest {t : RecordType} {s : Slots} {bs rest : Bytes} {v : Int × Int}
    (h : s.complete t bs = .ok (v, rest)) : rest = bs := by
  grind [Slots.complete]

/-- Reads the value of a field behind its name; `taken` says that it was read before. -/
def readField (field : Field) (taken : Bool) (bs : Bytes) : Except Fault (Int × Bytes) :=
  if taken then .error (.before (giveUpObject bs) (.duplicateField field.name))
  else do readInteger field.type (← readColon bs)

theorem readField_length_lt {field : Field} {taken : Bool} {bs rest : Bytes} {v : Int}
    (h : readField field taken bs = .ok (v, rest)) : rest.length < bs.length := by
  unfold readField at h
  split at h
  · cases h
  · obtain ⟨left, hc, h⟩ := of_bind_eq_ok h
    exact Nat.lt_trans (readInteger_length_lt h) (readColon_length_lt hc)

/-- Reads the value of a member behind its name: into its slot if it is a field, and else past
it. -/
def readMember (t : RecordType) (s : Slots) (name : List Char) (bs : Bytes) :
    Except Fault (Slots × Bytes) :=
  if name = t.first.name.toList then do
    let (a, rest) ← readField t.first s.first.isSome bs
    return ({ s with first := some a }, rest)
  else if name = t.second.name.toList then do
    let (b, rest) ← readField t.second s.second.isSome bs
    return ({ s with second := some b }, rest)
  else do return (s, ← skipValue (← readColon bs))

theorem readMember_length_lt {t : RecordType} {s s' : Slots} {name : List Char} {bs rest : Bytes}
    (h : readMember t s name bs = .ok (s', rest)) : rest.length < bs.length := by
  unfold readMember at h
  split at h
  · obtain ⟨⟨a, left⟩, ha, h⟩ := of_bind_eq_ok h
    cases h
    exact readField_length_lt ha
  · split at h
    · obtain ⟨⟨b, left⟩, hb, h⟩ := of_bind_eq_ok h
      cases h
      exact readField_length_lt hb
    · obtain ⟨left, hc, h⟩ := of_bind_eq_ok h
      obtain ⟨left', hv, h⟩ := of_bind_eq_ok h
      cases h
      exact Nat.lt_trans (skipValue_length_lt hv) (readColon_length_lt hc)

/-- Reads the next member of an object into its slot, or passes over the end of the object and
answers no slots. -/
def readNextMember (t : RecordType) (first : Bool) (s : Slots) (bs : Bytes) :
    Except Fault (Option Slots × Bytes) := do
  let (more, rest) ← toName first bs
  if more then
    let (name, rest) ← readString rest
    let (s, rest) ← readMember t s name rest
    return (some s, rest)
  else return (none, rest.drop 1)

theorem readNextMember_length_lt {t : RecordType} {first : Bool} {s s' : Slots} {bs rest : Bytes}
    (h : readNextMember t first s bs = .ok (some s', rest)) : rest.length < bs.length := by
  unfold readNextMember at h
  obtain ⟨⟨more, left⟩, ht, h⟩ := of_bind_eq_ok h
  have h1 := toName_length_le ht
  dsimp only at h
  split at h
  · obtain ⟨⟨name, left'⟩, hn, h⟩ := of_bind_eq_ok h
    obtain ⟨⟨slots, left''⟩, hm, h⟩ := of_bind_eq_ok h
    cases h
    have h2 := Nat.lt_trans (readMember_length_lt hm) (readString_length_lt hn)
    exact Nat.lt_of_lt_of_le h2 h1
  · cases h

/-- Reads the members of an object up to its end. -/
def readMembers (t : RecordType) (first : Bool) (s : Slots) (bs : Bytes) :
    Except Fault ((Int × Int) × Bytes) :=
  match _h : readNextMember t first s bs with
  | .error f => .error f
  | .ok (none, rest) => s.complete t rest
  | .ok (some s', rest) => readMembers t false s' rest
termination_by bs.length
decreasing_by exact readNextMember_length_lt _h

theorem readMembers_eq (t : RecordType) (first : Bool) (s : Slots) (bs : Bytes) :
    readMembers t first s bs =
      match readNextMember t first s bs with
      | .error f => .error f
      | .ok (none, rest) => s.complete t rest
      | .ok (some s', rest) => readMembers t false s' rest := by
  rw [readMembers]
  split <;> (rename_i h; rw [h])

theorem readNextMember_length_le {t : RecordType} {first : Bool} {s : Slots} {bs rest : Bytes}
    (h : readNextMember t first s bs = .ok (none, rest)) : rest.length ≤ bs.length := by
  unfold readNextMember at h
  obtain ⟨⟨more, left⟩, ht, h⟩ := of_bind_eq_ok h
  have h1 := toName_length_le ht
  dsimp only at h
  split at h
  · obtain ⟨⟨name, left'⟩, hn, h⟩ := of_bind_eq_ok h
    obtain ⟨⟨slots, left''⟩, hm, h⟩ := of_bind_eq_ok h
    cases h
  · cases h
    rw [List.length_drop]
    omega

theorem readMembers_length_le {t : RecordType} {first : Bool} {s : Slots} {bs rest : Bytes}
    {v : Int × Int} (h : readMembers t first s bs = .ok (v, rest)) : rest.length ≤ bs.length := by
  fun_induction readMembers t first s bs with
  | case1 => cases h
  | case2 first s bs left hm =>
    rw [complete_rest h]
    exact readNextMember_length_le hm
  | case3 first s bs s' left hm ih =>
    exact Nat.le_trans (ih h) (Nat.le_of_lt (readNextMember_length_lt hm))

/-- Reads a record. -/
def readRecord (t : RecordType) (bs : Bytes) : Except Fault ((Int × Int) × Bytes) :=
  match skipSpace bs with
  | [] => .error (.atNext [] .endOfValue)
  | b :: rest =>
    if b = 0x5B then readPair t rest
    else if b = 0x7B then readMembers t true {} rest
    else .error (unwanted t.describe (b :: rest))

theorem readRecord_length_lt {t : RecordType} {bs rest : Bytes} {v : Int × Int}
    (h : readRecord t bs = .ok (v, rest)) : rest.length < bs.length := by
  have := skipSpace_length_le bs
  grind [readRecord, → readPair_length_lt, → readMembers_length_le]

/-- Reads a span. -/
def readSpan (bs : Bytes) : Except Fault (YearSpan × Bytes) :=
  (readRecord .span bs).map fun p => (⟨Int32.ofInt p.1.1, Int32.ofInt p.1.2⟩, p.2)

/-- Reads an entry. -/
def readEntry (bs : Bytes) : Except Fault (AgeEntry × Bytes) :=
  (readRecord .entry bs).map fun p => (⟨Int32.ofInt p.1.1, Int64.ofInt p.1.2⟩, p.2)

end AgeReport.Json
