import AgeReport.Json.Record
import AgeReport.Proofs.Json.Skipped

/-!
# Reading a record from any object

An object is a list of members, in any order, with any values and with any blanks between. Read as a
record, each of its members takes an empty slot to a full one, or is passed over; a field that comes
a second time stops the reader. So what comes out is decided by the values under the two names
alone: each slot is filled exactly if one value, and no more, stands under its name, and the field
takes it.

* `WellFormed.readInteger_eq_ok_iff`: the values that a field takes.
* `Member`, `ObjectText`: objects, each part with what makes it one.
* `readMember_eq_ok_iff`: what a single member does to the slots.
* `readMembers_eq_ok_iff`: what all members do, by induction on them.
* `readRecord_eq_ok_iff`: the objects that are read as records.
-/

namespace AgeReport.Json

/-! ## Values of fields -/

section Value

open Decimal

variable {t : IntegerType} {a : Int} {b : UInt8} {v sp rest left : Bytes}

theorem readInteger_of_other (hsp : Blank sp) (hspace : isSpace b = false) (hminus : b ≠ 0x2D)
    (hdigit : isDigitByte b = false) (bs : Bytes) :
    readInteger t (sp ++ b :: bs) = .error (unwanted t.name (b :: bs)) := by
  rw [readInteger, skipSpace_append_cons hsp hspace]
  simp only [hminus, hdigit, Bool.false_eq_true, ↓reduceIte]

/-- A value that a field takes is a number. -/
theorem WellFormed.numberText_of_readInteger (hv : WellFormed .value v) (hsp : Blank sp)
    (hread : readInteger t (sp ++ (v ++ rest)) = .ok (a, left)) : NumberText v := by
  have hother : ∀ b bs, v = b :: bs → isSpace b = false → b ≠ 0x2D → isDigitByte b = false →
      NumberText v := by
    rintro b bs rfl hspace hminus hdigit
    rw [List.cons_append, readInteger_of_other hsp hspace hminus hdigit] at hread
    cases hread
  cases hv with
  | number hv => exact hv
  | word hw =>
    simp only [List.mem_cons, List.not_mem_nil, or_false] at hw
    rcases hw with rfl | rfl | rfl
    · exact hother 0x6E nullTail (by decide) (by decide) (by decide) (by decide)
    · exact hother 0x74 trueTail (by decide) (by decide) (by decide) (by decide)
    · exact hother 0x66 falseTail (by decide) (by decide) (by decide) (by decide)
  | string hbody => exact hother 0x22 _ rfl (by decide) (by decide) (by decide)
  | group bracket _ _ _ =>
    cases bracket with
    | list => exact hother 0x5B _ rfl (by decide) (by decide) (by decide)
    | object => exact hother 0x7B _ rfl (by decide) (by decide) (by decide)

/-- **The values that a field takes**: whatever blanks stand in front of a value, it is read exactly
if it is the text of an integer within the bounds. -/
theorem WellFormed.readInteger_eq_ok_iff (hv : WellFormed .value v) (ht : t.Narrow) (hsp : Blank sp)
    (hrest : Delimited rest) :
    readInteger t (sp ++ (v ++ rest)) = .ok (a, left) ↔ t.Takes v a ∧ left = rest := by
  constructor
  · intro hread
    exact (hv.numberText_of_readInteger hsp hread).takes_of_readInteger hsp hrest hread
  · rintro ⟨htakes, rfl⟩
    exact htakes.readInteger_eq ht hsp hrest

end Value

/-! ## Objects -/

/-- Bytes that may stand between the parts of a text. -/
abbrev Blanks := { sp : Bytes // Blank sp }

/-- A member of an object: its name, spelled in some way, and its value. -/
structure Member where
  before : Blanks
  spelling : Bytes
  name : String
  beforeColon : Blanks
  afterColon : Blanks
  value : Bytes
  after : Blanks
  spells : Unescapes spelling name.toList
  wellFormed : WellFormed .value value

namespace Member

/-- What stands between the name of a member and the blanks behind its value. -/
def behindName (m : Member) : Bytes :=
  m.beforeColon.1 ++ 0x3A :: (m.afterColon.1 ++ m.value)

/-- The bytes of a member. -/
def text (m : Member) : Bytes :=
  m.before.1 ++ 0x22 :: (m.spelling ++ 0x22 :: (m.behindName ++ m.after.1))

theorem wellFormed_text (m : Member) : WellFormed (.part .object) m.text := by
  have h := WellFormed.member m.before.2 m.spells.stringBody m.beforeColon.2 m.afterColon.2
    m.wellFormed m.after.2
  simpa [text, behindName] using h

end Member

/-- The text of an object: its members, and the blanks in front of the closing bracket and around the
object. -/
structure ObjectText where
  before : Blanks
  members : List Member
  last : Blanks
  after : Blanks

/-- The values that stand under a name, in their order. -/
def valuesOf (name : String) (ms : List Member) : List Bytes :=
  (ms.filter fun m => m.name = name).map Member.value

namespace ObjectText

/-- The object without the blanks around it. -/
def object (o : ObjectText) : Bytes :=
  0x7B :: (separated (o.members.map Member.text) ++ (o.last.1 ++ [0x7D]))

/-- The bytes of the text. -/
def text (o : ObjectText) : Bytes :=
  o.before.1 ++ (o.object ++ o.after.1)

/-- The values that stand under a name. -/
def values (o : ObjectText) (name : String) : List Bytes :=
  valuesOf name o.members

theorem wellFormed_object (o : ObjectText) : WellFormed .value o.object := by
  refine .group .object _ (fun p hp => ?_) o.last.2
  obtain ⟨m, -, rfl⟩ := List.mem_map.1 hp
  exact m.wellFormed_text

end ObjectText

/-! ## Slots -/

section Slot

variable {t : IntegerType} {slot : Option Int} {v : Bytes} {vs : List Bytes} {a : Int}

/-- The value `a` comes out for a field whose slot holds `slot`, and whose values `vs` are still to
be read: either the slot is full and there is no value, or it is empty and there is a single one. -/
def IntegerType.Gives (t : IntegerType) (slot : Option Int) (vs : List Bytes) (a : Int) : Prop :=
  (slot = some a ∧ vs = []) ∨ (slot = none ∧ ∃ v, vs = [v] ∧ t.Takes v a)

theorem gives_nil : t.Gives slot [] a ↔ slot = some a := by
  simp [IntegerType.Gives]

/-- The next value has to find the slot empty. -/
theorem gives_cons :
    t.Gives slot (v :: vs) a ↔ slot = none ∧ ∃ b, t.Takes v b ∧ t.Gives (some b) vs a := by
  constructor
  · rintro (⟨-, hvs⟩ | ⟨hslot, w, hvs, hw⟩)
    · cases hvs
    · cases hvs
      exact ⟨hslot, a, hw, .inl ⟨rfl, rfl⟩⟩
  · rintro ⟨hslot, b, hb, hgives⟩
    rcases hgives with ⟨hba, rfl⟩ | ⟨hnone, -⟩
    · cases hba
      exact .inr ⟨hslot, v, rfl, hb⟩
    · cases hnone

theorem gives_none : t.Gives none vs a ↔ ∃ v, vs = [v] ∧ t.Takes v a := by
  simp [IntegerType.Gives]

end Slot

theorem valuesOf_cons_self {m : Member} {name : String} (h : m.name = name) (ms : List Member) :
    valuesOf name (m :: ms) = m.value :: valuesOf name ms := by
  simp [valuesOf, h]

theorem valuesOf_cons_of_ne {m : Member} {name : String} (h : m.name ≠ name) (ms : List Member) :
    valuesOf name (m :: ms) = valuesOf name ms := by
  simp [valuesOf, h]

/-- Records whose fields are told apart by their names, and hold integers only. -/
structure RecordType.Sound (t : RecordType) : Prop where
  distinct : t.first.name ≠ t.second.name
  first : t.first.type.Narrow
  second : t.second.type.Narrow

theorem sound_span : RecordType.span.Sound :=
  ⟨by decide, narrow_year, narrow_year⟩

/-- What a member does to the slots of a record. -/
inductive Member.Moves (t : RecordType) (m : Member) (s : Slots) : Slots → Prop
  | first {a : Int} (hname : m.name = t.first.name) (hs : s.first = none)
    (ha : t.first.type.Takes m.value a) : Moves t m s { s with first := some a }
  | second {a : Int} (hname : m.name = t.second.name) (hs : s.second = none)
    (ha : t.second.type.Takes m.value a) : Moves t m s { s with second := some a }
  | other (hfirst : m.name ≠ t.first.name) (hsecond : m.name ≠ t.second.name) : Moves t m s s

section Members

variable {t : RecordType} {s s' : Slots} {m : Member} {ms : List Member}
  {sp sp' rest left bs : Bytes}
  {a b : Int} {p : Int × Int} {first : Bool}

/-- Both values come out of a member and of those behind it exactly if they come out of those behind
it once the member has done its work. -/
theorem exists_moves_iff (ht : t.Sound) :
    (∃ s', m.Moves t s s' ∧ t.first.type.Gives s'.first (valuesOf t.first.name ms) a ∧
        t.second.type.Gives s'.second (valuesOf t.second.name ms) b) ↔
      t.first.type.Gives s.first (valuesOf t.first.name (m :: ms)) a ∧
        t.second.type.Gives s.second (valuesOf t.second.name (m :: ms)) b := by
  by_cases hfirst : m.name = t.first.name
  · have hsecond : m.name ≠ t.second.name := hfirst ▸ ht.distinct
    rw [valuesOf_cons_self hfirst, valuesOf_cons_of_ne hsecond, gives_cons]
    constructor
    · rintro ⟨s', hmoves, ha, hb⟩
      cases hmoves with
      | first _ hs hc => exact ⟨⟨hs, _, hc, ha⟩, hb⟩
      | second hname _ _ => exact absurd hname hsecond
      | other hne _ => exact absurd hfirst hne
    · rintro ⟨⟨hs, c, hc, ha⟩, hb⟩
      exact ⟨_, .first hfirst hs hc, ha, hb⟩
  by_cases hsecond : m.name = t.second.name
  · rw [valuesOf_cons_of_ne hfirst, valuesOf_cons_self hsecond, gives_cons]
    constructor
    · rintro ⟨s', hmoves, ha, hb⟩
      cases hmoves with
      | first hname _ _ => exact absurd hname hfirst
      | second _ hs hc => exact ⟨ha, hs, _, hc, hb⟩
      | other _ hne => exact absurd hsecond hne
    · rintro ⟨ha, hs, c, hc, hb⟩
      exact ⟨_, .second hsecond hs hc, ha, hb⟩
  · rw [valuesOf_cons_of_ne hfirst, valuesOf_cons_of_ne hsecond]
    constructor
    · rintro ⟨s', hmoves, ha, hb⟩
      cases hmoves with
      | first hname _ _ => exact absurd hname hfirst
      | second hname _ _ => exact absurd hname hsecond
      | other _ _ => exact ⟨ha, hb⟩
    · rintro ⟨ha, hb⟩
      exact ⟨s, .other hfirst hsecond, ha, hb⟩

/-! ## A single member -/

theorem behindName_append (m : Member) (rest : Bytes) :
    m.behindName ++ rest = m.beforeColon.1 ++ 0x3A :: (m.afterColon.1 ++ (m.value ++ rest)) := by
  simp [Member.behindName]

theorem readField_eq_ok_iff {field : Field} {slot : Option Int} (ht : field.type.Narrow)
    (hrest : Delimited rest) :
    readField field slot.isSome (m.behindName ++ rest) = .ok (a, left) ↔
      slot = none ∧ field.type.Takes m.value a ∧ left = rest := by
  cases slot with
  | some c => simp [readField]
  | none =>
    rw [readField, Option.isSome_none, if_neg Bool.false_ne_true, behindName_append,
      readColon_blank m.beforeColon.2, ok_bind,
      m.wellFormed.readInteger_eq_ok_iff ht m.afterColon.2 hrest]
    simp

/-- **What a member does to the slots**: it fills the slot of its field if that is empty and the
value is one of the field, it is passed over if it has another name, and otherwise it is refused. -/
theorem readMember_eq_ok_iff (ht : t.Sound) (hrest : Delimited rest) :
    readMember t s m.name.toList (m.behindName ++ rest) = .ok (s', left) ↔
      m.Moves t s s' ∧ left = rest := by
  by_cases hfirst : m.name = t.first.name
  · rw [readMember, if_pos (congrArg String.toList hfirst)]
    constructor
    · intro h
      obtain ⟨⟨a, left'⟩, hfield, h⟩ := of_bind_eq_ok h
      cases h
      obtain ⟨hs, ha, rfl⟩ := (readField_eq_ok_iff ht.first hrest).1 hfield
      exact ⟨.first hfirst hs ha, rfl⟩
    · rintro ⟨hmoves, rfl⟩
      cases hmoves with
      | first _ hs ha =>
        rw [(readField_eq_ok_iff ht.first hrest).2 ⟨hs, ha, rfl⟩]
        rfl
      | second hname _ _ => exact absurd (hfirst.symm.trans hname) ht.distinct
      | other hne _ => exact absurd hfirst hne
  by_cases hsecond : m.name = t.second.name
  · rw [readMember, if_neg (fun h => hfirst (String.toList_inj.1 h)),
      if_pos (congrArg String.toList hsecond)]
    constructor
    · intro h
      obtain ⟨⟨a, left'⟩, hfield, h⟩ := of_bind_eq_ok h
      cases h
      obtain ⟨hs, ha, rfl⟩ := (readField_eq_ok_iff ht.second hrest).1 hfield
      exact ⟨.second hsecond hs ha, rfl⟩
    · rintro ⟨hmoves, rfl⟩
      cases hmoves with
      | first hname _ _ => exact absurd hname hfirst
      | second _ hs ha =>
        rw [(readField_eq_ok_iff ht.second hrest).2 ⟨hs, ha, rfl⟩]
        rfl
      | other _ hne => exact absurd hsecond hne
  · have hskip := m.wellFormed.skippable.skipValue_eq m.afterColon.2 hrest
    rw [readMember, if_neg (fun h => hfirst (String.toList_inj.1 h)),
      if_neg (fun h => hsecond (String.toList_inj.1 h)), behindName_append,
      readColon_blank m.beforeColon.2, ok_bind, hskip, ok_bind]
    constructor
    · rintro ⟨⟩
      exact ⟨.other hfirst hsecond, rfl⟩
    · rintro ⟨hmoves, rfl⟩
      cases hmoves with
      | first hname _ _ => exact absurd hname hfirst
      | second hname _ _ => exact absurd hname hsecond
      | other _ _ => rfl

/-! ## All members -/

theorem toName_first (hsp : Blank sp) (rest : Bytes) :
    toName true (sp ++ 0x22 :: rest) = .ok (true, rest) := by
  rw [toName, skipSpace_append_cons hsp (by decide)]
  rfl

theorem toName_next (hsp : Blank sp) (rest : Bytes) :
    toName false (0x2C :: (sp ++ 0x22 :: rest)) = .ok (true, rest) := by
  rw [toName, skipSpace_cons (by decide)]
  dsimp only
  rw [if_neg (by decide), if_neg Bool.false_ne_true, if_pos rfl,
    skipSpace_append_cons hsp (by decide)]
  rfl

theorem toName_end (hsp : Blank sp) (first : Bool) (rest : Bytes) :
    toName first (sp ++ 0x7D :: rest) = .ok (false, 0x7D :: rest) := by
  rw [toName, skipSpace_append_cons hsp (by decide)]
  rfl

theorem toName_blank (hsp : Blank sp) (first : Bool) (bs : Bytes) :
    toName first (sp ++ bs) = toName first bs := by
  rw [toName, toName, skipSpace_append hsp]

theorem readNextMember_end (hsp : Blank sp) (first : Bool) (rest : Bytes) :
    readNextMember t first s (sp ++ 0x7D :: rest) = .ok (none, rest) := by
  rw [readNextMember, toName_end hsp]
  rfl

theorem readMembers_of_none {first : Bool} (h : readNextMember t first s bs = .ok (none, rest)) :
    readMembers t first s bs = s.complete t rest := by
  rw [readMembers_eq, h]

theorem readMembers_of_some {first : Bool}
    (h : readNextMember t first s bs = .ok (some s', rest)) :
    readMembers t first s bs = readMembers t false s' rest := by
  rw [readMembers_eq, h]

/-- A member is read, and then those behind it. -/
theorem readMembers_of_toName (ht : t.Sound) (hrest : Delimited rest)
    (h : toName first bs = .ok (true, m.spelling ++ 0x22 :: (m.behindName ++ rest))) :
    readMembers t first s bs = .ok (p, left) ↔
      ∃ s', m.Moves t s s' ∧ readMembers t false s' rest = .ok (p, left) := by
  have hnext : readNextMember t first s bs =
      (readMember t s m.name.toList (m.behindName ++ rest)).map fun p => (some p.1, p.2) := by
    rw [readNextMember, h, ok_bind]
    dsimp only
    rw [if_pos rfl, m.spells.readString_eq, ok_bind]
    cases readMember t s m.name.toList (m.behindName ++ rest) <;> rfl
  constructor
  · intro hread
    rw [readMembers_eq] at hread
    split at hread
    · cases hread
    · rename_i hnone
      obtain ⟨r, -, hr⟩ := of_map_eq_ok (hnext.symm.trans hnone)
      cases hr
    · rename_i s' left' hsome
      obtain ⟨r, hmember, hr⟩ := of_map_eq_ok (hnext.symm.trans hsome)
      cases hr
      obtain ⟨hmoves, hleft⟩ := (readMember_eq_ok_iff ht hrest).1 hmember
      rw [hleft] at hread
      exact ⟨r.1, hmoves, hread⟩
  · rintro ⟨s', hmoves, hread⟩
    rw [(readMember_eq_ok_iff ht hrest).2 ⟨hmoves, rfl⟩] at hnext
    rw [readMembers_of_some hnext, hread]

theorem complete_eq_ok_iff :
    s.complete t bs = .ok ((a, b), left) ↔ s.first = some a ∧ s.second = some b ∧ left = bs := by
  obtain ⟨c, d⟩ := s
  cases c <;> cases d <;> simp [Slots.complete, eq_comm, and_assoc]

theorem delimited_members (hsp : Blank sp) (hsp' : Blank sp') (ms : List Member) (rest : Bytes) :
    Delimited (sp ++ (ms.flatMap (fun m => 0x2C :: m.text) ++ (sp' ++ 0x7D :: rest))) := by
  have h := delimited_separated (ms.map Member.text) hsp' .object rest
  rw [List.flatMap_map] at h
  exact delimited_append hsp h

theorem text_append (m : Member) (rest : Bytes) :
    m.text ++ rest =
      m.before.1 ++ 0x22 :: (m.spelling ++ 0x22 :: (m.behindName ++ (m.after.1 ++ rest))) := by
  simp [Member.text]

/-- What all further members do: each value comes out of the slot it was in, or of the only member
of its name, wherever that stands. -/
theorem readMembers_further_eq_ok_iff (ht : t.Sound) (hsp : Blank sp) (hsp' : Blank sp')
    (rest : Bytes) :
    readMembers t false s
        (sp ++ (ms.flatMap (fun m => 0x2C :: m.text) ++ (sp' ++ 0x7D :: rest))) =
        .ok ((a, b), left) ↔
      (t.first.type.Gives s.first (valuesOf t.first.name ms) a ∧
        t.second.type.Gives s.second (valuesOf t.second.name ms) b) ∧ left = rest := by
  -- on the members, with the slots and the blanks behind the last value left open
  induction ms generalizing s sp with
  | nil =>
    rw [List.flatMap_nil, List.nil_append, ← List.append_assoc,
      readMembers_of_none (readNextMember_end (blank_append hsp hsp') false rest),
      complete_eq_ok_iff]
    simp [valuesOf, gives_nil, and_assoc]
  | cons m ms ih =>
    have hrest := delimited_members m.after.2 hsp' ms rest
    have hname : toName false
        (sp ++ ((m :: ms).flatMap (fun m => 0x2C :: m.text) ++ (sp' ++ 0x7D :: rest))) =
        .ok (true, m.spelling ++ 0x22 :: (m.behindName ++ (m.after.1 ++
          (ms.flatMap (fun m => 0x2C :: m.text) ++ (sp' ++ 0x7D :: rest))))) := by
      rw [toName_blank hsp, List.flatMap_cons, List.cons_append, List.cons_append, List.append_assoc,
        text_append]
      exact toName_next m.before.2 _
    rw [readMembers_of_toName ht hrest hname, ← exists_moves_iff ht]
    simp only [ih m.after.2, ← and_assoc, exists_and_right]

/-- **What all members do**: the same from the first one on. -/
theorem readMembers_eq_ok_iff (ht : t.Sound) (hsp : Blank sp) (rest : Bytes) :
    readMembers t true s (separated (ms.map Member.text) ++ (sp ++ 0x7D :: rest)) =
        .ok ((a, b), left) ↔
      (t.first.type.Gives s.first (valuesOf t.first.name ms) a ∧
        t.second.type.Gives s.second (valuesOf t.second.name ms) b) ∧ left = rest := by
  cases ms with
  | nil =>
    rw [List.map_nil, separated_nil, List.nil_append,
      readMembers_of_none (readNextMember_end hsp true rest), complete_eq_ok_iff]
    simp [valuesOf, gives_nil, and_assoc]
  | cons m ms =>
    have hrest := delimited_members m.after.2 hsp ms rest
    have hname : toName true (separated ((m :: ms).map Member.text) ++ (sp ++ 0x7D :: rest)) =
        .ok (true, m.spelling ++ 0x22 :: (m.behindName ++ (m.after.1 ++
          (ms.flatMap (fun m => 0x2C :: m.text) ++ (sp ++ 0x7D :: rest))))) := by
      rw [List.map_cons, separated_cons, List.flatMap_map, List.append_assoc, text_append]
      exact toName_first m.before.2 _
    rw [readMembers_of_toName ht hrest hname, ← exists_moves_iff ht]
    simp only [readMembers_further_eq_ok_iff ht m.after.2 hsp, ← and_assoc, exists_and_right]

/-- **The objects that are read as records**: those with a single value under each of the two names,
which the field takes. What stands behind the object is left. -/
theorem readRecord_eq_ok_iff (ht : t.Sound) (o : ObjectText) (hsp : Blank sp) (rest : Bytes) :
    readRecord t (sp ++ (o.object ++ rest)) = .ok ((a, b), left) ↔
      ((∃ v, o.values t.first.name = [v] ∧ t.first.type.Takes v a) ∧
        ∃ v, o.values t.second.name = [v] ∧ t.second.type.Takes v b) ∧ left = rest := by
  have hopen : readRecord t (sp ++ (o.object ++ rest)) =
      readMembers t true {} (separated (o.members.map Member.text) ++
        (o.last.1 ++ 0x7D :: rest)) := by
    rw [readRecord, ObjectText.object, List.cons_append, skipSpace_append_cons hsp (by decide)]
    simp
  rw [hopen, readMembers_eq_ok_iff ht o.last.2, gives_none, gives_none]
  rfl

end Members

end AgeReport.Json
