import AgeReport.Json.Record

/-!
# Values from JSON texts

Reading lists of entries and names of forms, and reading a whole text as one value, behind which
only blanks may follow.

* `readNextElement_length_lt`: elements take up bytes, so a list comes to an end;
* `decodeSpan`, `decodeEntry`, `decodeEntries`, `decodeFormat`: a whole text as one value.
-/

namespace AgeReport.Json

/-! ## Lists of entries -/

/-- Reads the next element of an array, or passes over the end of the array and answers no
element. -/
def readNextElement (first : Bool) (bs : Bytes) : Except Fault (Option AgeEntry × Bytes) := do
  let (more, rest) ← toElement first bs
  if more then
    let (e, rest) ← readEntry rest
    return (some e, rest)
  else return (none, ← endArray rest)

theorem readNextElement_length_lt {first : Bool} {e : AgeEntry} {bs rest : Bytes}
    (h : readNextElement first bs = .ok (some e, rest)) : rest.length < bs.length := by
  unfold readNextElement at h
  obtain ⟨⟨more, left⟩, ht, h⟩ := of_bind_eq_ok h
  have h1 := toElement_length_le ht
  dsimp only at h
  split at h
  · obtain ⟨⟨e', left'⟩, he, h⟩ := of_bind_eq_ok h
    cases h
    obtain ⟨p, hr, hp⟩ := of_map_eq_ok he
    cases hp
    exact Nat.lt_of_lt_of_le (readRecord_length_lt hr) h1
  · obtain ⟨left', he, h⟩ := of_bind_eq_ok h
    cases h

/-- Reads elements of an array up to its end. -/
def readElements (first : Bool) (bs : Bytes) : Except Fault (List AgeEntry × Bytes) :=
  match _h : readNextElement first bs with
  | .error f => .error f
  | .ok (none, rest) => .ok ([], rest)
  | .ok (some e, rest) => (readElements false rest).map fun p => (e :: p.1, p.2)
termination_by bs.length
decreasing_by exact readNextElement_length_lt _h

theorem readElements_eq (first : Bool) (bs : Bytes) :
    readElements first bs =
      match readNextElement first bs with
      | .error f => .error f
      | .ok (none, rest) => .ok ([], rest)
      | .ok (some e, rest) => (readElements false rest).map fun p => (e :: p.1, p.2) := by
  rw [readElements]
  split <;> (rename_i h; rw [h])

/-- Reads a list of entries. -/
def readEntries (bs : Bytes) : Except Fault (List AgeEntry × Bytes) :=
  match skipSpace bs with
  | [] => .error (.atNext [] .endOfValue)
  | b :: rest =>
    if b = 0x5B then readElements true rest
    else .error (unwanted "a sequence" (b :: rest))

/-! ## Names of forms -/

/-- Reads what follows the opening quote of the name of a form. -/
def readFormatName (bs : Bytes) : Except Fault (OutputFormat × Bytes) := do
  let (name, rest) ← readString bs
  match OutputFormat.ofName? (String.ofList name) with
  | some f => return (f, rest)
  | none => throw (.before rest (.unknownVariant (String.ofList name)))

/-- Reads a null. -/
def readNull (expected : String) (bs : Bytes) : Except Fault Bytes :=
  match skipSpace bs with
  | [] => .error (.atNext [] .endOfValue)
  | b :: rest =>
    if b = 0x6E then readWord nullTail rest else .error (unwanted expected (b :: rest))

/-- Reads what follows the opening bracket of an object whose only member names a form. -/
def readFormatObject (bs : Bytes) : Except Fault (OutputFormat × Bytes) :=
  match skipSpace bs with
  | [] => .error (.atNext [] .endOfObject)
  | b :: rest =>
    if b = 0x7D then .error (.atNext (b :: rest) .valueExpected)
    else if b = 0x22 then do
      let (f, rest) ← readFormatName rest
      let rest ← readNull "unit" (← readColon rest)
      match skipSpace rest with
      | [] => throw (.before [] .endOfObject)
      | 0x7D :: rest => return (f, rest)
      | other => throw (.before other .valueExpected)
    else .error (.atNext (b :: rest) .nameNotString)

/-- Reads the name of a form: a string, or an object with the name and a null. -/
def readFormat (bs : Bytes) : Except Fault (OutputFormat × Bytes) :=
  match skipSpace bs with
  | [] => .error (.atNext [] .endOfValue)
  | b :: rest =>
    if b = 0x7B then readFormatObject rest
    else if b = 0x22 then readFormatName rest
    else .error (.atNext (b :: rest) .valueExpected)

/-! ## Whole texts -/

/-- Reads a whole text (`from_slice`): behind the value only blanks may follow. -/
def readAll {α : Type} (read : Reader α) (text : Bytes) : Except Fault α := do
  let (a, rest) ← read text
  match skipSpace rest with
  | [] => return a
  | other => throw (.atNext other .trailingCharacters)

/-- Decodes a span. -/
def decodeSpan : Bytes → Except Fault YearSpan :=
  readAll readSpan

/-- Decodes an entry. -/
def decodeEntry : Bytes → Except Fault AgeEntry :=
  readAll readEntry

/-- Decodes a list of entries. -/
def decodeEntries : Bytes → Except Fault (List AgeEntry) :=
  readAll readEntries

/-- Decodes the name of a form. -/
def decodeFormat : Bytes → Except Fault OutputFormat :=
  readAll readFormat

end AgeReport.Json
