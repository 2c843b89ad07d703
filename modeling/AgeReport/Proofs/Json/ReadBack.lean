import AgeReport.Json.Decode
import AgeReport.Proofs.Json.ObjectTexts
import AgeReport.Proofs.Json.Written

/-!
# Reading back lists and records

Lists and objects in any layout are values of the grammar, and are read back part by part. Each
reader stops right behind the bracket that closes its value, whatever follows, so it tells where a
text ends that is only the beginning of a longer one.

Results:
* `readEntries_group`: a list of entries, from the texts of the entries.
* `readRecord_group`: a record from an object, by the values of its members.
* `readAll_eq_ok_iff`: a whole text, with blanks behind the value.
-/

namespace AgeReport.Json

variable {sp rest bs v : Bytes} {l : Layout} {d : Nat}

/-! ## Texts as they are written -/

theorem blank_newline (l : Layout) (d : Nat) : Blank (l.newline d) := by
  cases l with
  | compact => exact blank_nil
  | indented =>
    intro b hb
    rw [Layout.newline, List.mem_cons, List.mem_replicate] at hb
    rcases hb with rfl | ⟨-, rfl⟩ <;> decide

theorem begun_group (l : Layout) (bracket : Bracket) (d : Nat) (parts : List Bytes) :
    Begun (l.group bracket d parts) := by
  cases bracket with
  | list => exact begun_cons (by decide) _
  | object => exact begun_cons (by decide) _

theorem group_nil_append (l : Layout) (bracket : Bracket) (d : Nat) (rest : Bytes) :
    l.group bracket d [] ++ rest = bracket.opening :: bracket.closing :: rest := by
  simp [Layout.group, Layout.lines]

/-- What stands between the brackets of a list or an object that is not empty. -/
theorem group_cons_append (l : Layout) (bracket : Bracket) (d : Nat) (p : Bytes)
    (parts : List Bytes) (rest : Bytes) :
    l.group bracket d (p :: parts) ++ rest = bracket.opening :: (l.newline (d + 1) ++ (p ++
      (l.further (d + 1) parts ++ (l.newline d ++ bracket.closing :: rest)))) := by
  simp [Layout.group, Layout.lines]

theorem further_cons_append (l : Layout) (d : Nat) (p : Bytes) (parts : List Bytes)
    (rest : Bytes) : l.further d (p :: parts) ++ rest =
      0x2C :: (l.newline d ++ (p ++ (l.further d parts ++ rest))) := by
  simp [Layout.further]

/-- What is written between brackets are parts of the grammar. -/
theorem group_eq_separated (l : Layout) (bracket : Bracket) (d : Nat) (parts : List Bytes) :
    l.group bracket d parts = bracket.opening :: (separated (parts.map (l.newline (d + 1) ++ ·)) ++
      ((if parts = [] then [] else l.newline d) ++ [bracket.closing])) := by
  simp [Layout.group, Layout.lines_eq_intercalate, separated]

theorem blank_closing (l : Layout) (d : Nat) (parts : List Bytes) :
    Blank (if parts = [] then [] else l.newline d) := by
  split
  · exact blank_nil
  · exact blank_newline l d

theorem wellFormed_list {parts : List Bytes} (h : ∀ v ∈ parts, WellFormed .value v) :
    WellFormed .value (l.group .list d parts) := by
  rw [group_eq_separated]
  refine .group .list _ (fun p hp => ?_) (blank_closing l d parts)
  obtain ⟨v, hv, rfl⟩ := List.mem_map.1 hp
  have helement := WellFormed.element (blank_newline l (d + 1)) (h v hv) blank_nil
  rwa [List.append_nil] at helement

theorem wellFormed_bytes (n : Int) : WellFormed .value (Decimal.bytes n) :=
  .number (integerText_bytes n).numberText

theorem wellFormed_quoted {s : String} (hs : PlainName s) : WellFormed .value (quoted s) :=
  .string (unescapes_of_isPlainChar hs).stringBody

/-! ## Lists -/

theorem toElement_first (hv : Begun v) (hsp : Blank sp) (rest : Bytes) :
    toElement true (sp ++ (v ++ rest)) = .ok (true, v ++ rest) := by
  have hskip := skipSpace_of_begun hv hsp rest
  obtain ⟨b, v, rfl, -, hclosing⟩ := hv.exists_cons
  rw [toElement, hskip]
  exact (if_neg (hclosing .list)).trans (if_pos rfl)

theorem toElement_next (hv : Begun v) (hsp : Blank sp) (rest : Bytes) :
    toElement false (0x2C :: (sp ++ (v ++ rest))) = .ok (true, v ++ rest) := by
  have hskip := skipSpace_of_begun hv hsp rest
  obtain ⟨b, v, rfl, -, hclosing⟩ := hv.exists_cons
  rw [toElement, skipSpace_cons (by decide)]
  dsimp only
  rw [if_neg (by decide), if_neg Bool.false_ne_true, if_pos rfl, hskip]
  exact if_neg (hclosing .list)

theorem toElement_end (hsp : Blank sp) (first : Bool) (rest : Bytes) :
    toElement first (sp ++ 0x5D :: rest) = .ok (false, 0x5D :: rest) := by
  rw [toElement, skipSpace_append_cons hsp (by decide)]
  rfl

theorem endArray_cons (rest : Bytes) : endArray (0x5D :: rest) = .ok rest := by
  rw [endArray, skipSpace_cons (by decide)]
  rfl

/-- A text that is read back as an entry, whatever stands behind it. -/
structure ReadsEntry (v : Bytes) (e : AgeEntry) : Prop where
  begun : Begun v
  read : ∀ rest, readEntry (v ++ rest) = .ok (e, rest)

theorem readElements_of_none {first : Bool} (h : readNextElement first bs = .ok (none, rest)) :
    readElements first bs = .ok ([], rest) := by
  rw [readElements_eq, h]

theorem readElements_of_some {first : Bool} {e : AgeEntry}
    (h : readNextElement first bs = .ok (some e, rest)) :
    readElements first bs = (readElements false rest).map fun p => (e :: p.1, p.2) := by
  rw [readElements_eq, h]

theorem readNextElement_of_toElement {first : Bool} {e : AgeEntry} (hv : ReadsEntry v e)
    (h : toElement first bs = .ok (true, v ++ rest)) :
    readNextElement first bs = .ok (some e, rest) := by
  rw [readNextElement, h, ok_bind]
  dsimp only
  rw [if_pos rfl, hv.read]
  rfl

theorem readNextElement_end (hsp : Blank sp) (first : Bool) (rest : Bytes) :
    readNextElement first (sp ++ 0x5D :: rest) = .ok (none, rest) := by
  rw [readNextElement, toElement_end hsp, ok_bind]
  dsimp only
  rw [if_neg Bool.false_ne_true, endArray_cons]
  rfl

section List

variable {text : AgeEntry → Bytes} {es : List AgeEntry}

theorem readElements_further (h : ∀ e ∈ es, ReadsEntry (text e) e) (hsp : Blank sp) (rest : Bytes) :
    readElements false (l.further d (es.map text) ++ (sp ++ 0x5D :: rest)) = .ok (es, rest) := by
  induction es with
  | nil => exact readElements_of_none (readNextElement_end hsp false rest)
  | cons e es ih =>
    have he := h e List.mem_cons_self
    rw [List.map_cons, further_cons_append, readElements_of_some (readNextElement_of_toElement he
        (toElement_next he.begun (blank_newline l d) _)),
      ih fun e' he' => h e' (List.mem_cons_of_mem e he')]
    rfl

/-- **A list is read back from the texts of its elements.** -/
theorem readEntries_group (h : ∀ e ∈ es, ReadsEntry (text e) e) (rest : Bytes) :
    readEntries (l.group .list d (es.map text) ++ rest) = .ok (es, rest) := by
  cases es with
  | nil =>
    rw [List.map_nil, group_nil_append, readEntries,
      skipSpace_cons (by decide)]
    exact readElements_of_none (readNextElement_end blank_nil true rest)
  | cons e es =>
    have he := h e List.mem_cons_self
    rw [List.map_cons, group_cons_append, readEntries,
      skipSpace_cons (by decide)]
    refine (readElements_of_some (readNextElement_of_toElement he
      (toElement_first he.begun (blank_newline l (d + 1)) _))).trans ?_
    rw [show Bracket.list.closing = 0x5D from rfl, readElements_further
      (fun e' he' => h e' (List.mem_cons_of_mem e he')) (blank_newline l d)]
    rfl

end List

/-! ## Objects -/

/-- A member whose name needs no escapes. -/
structure PlainMember where
  name : String
  value : Bytes
  plain : PlainName name
  wellFormed : WellFormed .value value

theorem blank_space : Blank [0x20] := by
  simp [Blank, isSpace]

/-- The blanks between a colon and a value. -/
def Layout.gap : Layout → Blanks
  | compact => ⟨[], blank_nil⟩
  | indented => ⟨[0x20], blank_space⟩

theorem colon_eq (l : Layout) : l.colon = 0x3A :: l.gap.1 := by
  cases l <;> rfl

namespace PlainMember

/-- The member without the blanks around it. -/
def text (l : Layout) (m : PlainMember) : Bytes :=
  l.member m.name m.value

/-- The member as it is written at a depth. -/
def toMember (l : Layout) (d : Nat) (m : PlainMember) : Member where
  before := ⟨l.newline d, blank_newline l d⟩
  spelling := Text.bytes m.name
  name := m.name
  beforeColon := ⟨[], blank_nil⟩
  afterColon := l.gap
  value := m.value
  after := ⟨[], blank_nil⟩
  spells := unescapes_of_isPlainChar m.plain
  wellFormed := m.wellFormed

theorem text_toMember (l : Layout) (d : Nat) (m : PlainMember) :
    (m.toMember l d).text = l.newline d ++ m.text l := by
  simp [Member.text, Member.behindName, toMember, text, Layout.member, colon_eq, quoted]

end PlainMember

/-- The object with the given members, as it is written at a depth. -/
def ObjectText.written (l : Layout) (d : Nat) (ms : List PlainMember) : ObjectText where
  before := ⟨[], blank_nil⟩
  members := ms.map (PlainMember.toMember l (d + 1))
  last := ⟨_, blank_closing l d (ms.map (PlainMember.text l))⟩
  after := ⟨[], blank_nil⟩

theorem object_written (l : Layout) (d : Nat) (ms : List PlainMember) :
    (ObjectText.written l d ms).object = l.group .object d (ms.map (PlainMember.text l)) := by
  have hmembers : (ms.map (PlainMember.toMember l (d + 1))).map Member.text =
      (ms.map (PlainMember.text l)).map (l.newline (d + 1) ++ ·) := by
    rw [List.map_map, List.map_map]
    exact List.map_congr_left fun m _ => m.text_toMember l (d + 1)
  rw [group_eq_separated, ← hmembers]
  rfl

theorem wellFormed_object (l : Layout) (d : Nat) (ms : List PlainMember) :
    WellFormed .value (l.group .object d (ms.map (PlainMember.text l))) := by
  rw [← object_written]
  exact ObjectText.wellFormed_object _

/-- **A record is read back from an object** by the values of its members. -/
theorem readRecord_group {t : RecordType} (ht : t.Sound) (ms : List PlainMember) {v w : Bytes}
    {a b : Int}
    (ha : (ObjectText.written l d ms).values t.first.name = [v]) (hv : t.first.type.Takes v a)
    (hb : (ObjectText.written l d ms).values t.second.name = [w]) (hw : t.second.type.Takes w b)
    (rest : Bytes) :
    readRecord t (l.group .object d (ms.map (PlainMember.text l)) ++ rest) =
      .ok ((a, b), rest) := by
  rw [← object_written]
  exact (readRecord_eq_ok_iff ht _ blank_nil rest).2 ⟨⟨⟨v, ha, hv⟩, ⟨w, hb, hw⟩⟩, rfl⟩

/-! ## Whole texts -/

theorem readAll_eq_ok_iff {α : Type} {read : Reader α} {a : α} :
    readAll read bs = .ok a ↔ ∃ rest, read bs = .ok (a, rest) ∧ skipSpace rest = [] := by
  constructor
  · intro h
    obtain ⟨⟨a', rest⟩, hread, h⟩ := of_bind_eq_ok h
    cases hskip : skipSpace rest with
    | nil =>
      simp only [hskip] at h
      cases h
      exact ⟨rest, hread, hskip⟩
    | cons b bs =>
      simp only [hskip] at h
      cases h
  · rintro ⟨rest, hread, hskip⟩
    rw [readAll, hread, ok_bind]
    dsimp only
    rw [hskip]
    rfl

theorem skipSpace_of_blank (h : Blank sp) : skipSpace sp = [] := by
  rw [← List.append_nil sp, skipSpace_append h]
  rfl

theorem readAll_eq {α : Type} {read : Reader α} {a : α} (h : read bs = .ok (a, rest))
    (hrest : Blank rest) : readAll read bs = .ok a :=
  readAll_eq_ok_iff.2 ⟨rest, h, skipSpace_of_blank hrest⟩

end AgeReport.Json
