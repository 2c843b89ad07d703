import AgeReport.Json.Decode
import AgeReport.Proofs.Json.CarryOver

/-!
# Texts that are cut short

Lists and records show their own end, so whatever is read as one is read as the same one in front
of any more bytes. A text that ends with the closing bracket of its value has therefore no beginning
that is read as a value: with the missing bytes behind it, the reader would still stop short of
them.

Results:
* `carries_readRecord`, `carries_readEntries`: records and lists in front of more bytes.
* `readAll_of_cut`: a text that is cut anywhere is not read.
-/

namespace AgeReport.Json

variable {bs rest : Bytes} {b : UInt8} {more : Bytes}

/-! ## Integers -/

theorem carries_accept (t : IntegerType) (n : Number) (bs : Bytes) :
    Carries Any more (t.accept n bs) (t.accept n (bs ++ more)) := by
  cases n with
  | float f => exact .error
  | integer v => exact .ite (fun _ => .pair v bs) fun _ => .error

theorem carries_readInteger (t : IntegerType) (bs : Bytes) :
    Carries Stops more (readInteger t bs) (readInteger t (bs ++ more)) := by
  have haccept : ∀ positive bs, Carries Stops more
      (readNumber positive bs >>= fun p => t.accept p.1 p.2)
      (readNumber positive (bs ++ more) >>= fun p => t.accept p.1 p.2) := by
    intro positive bs
    refine (carries_readNumber positive bs).bind ?_ fun p _ => (carries_accept t p.1 p.2).of_any
    rintro ⟨n, rest⟩ ⟨v, rest'⟩ - ht hstops
    cases accept_rest ht
    exact hstops
  unfold readInteger
  cases h : skipSpace bs with
  | nil => exact .error
  | cons b rest =>
    rw [skipSpace_append_of_eq h]
    exact .ite (fun _ => haccept false rest) fun _ =>
      .ite (fun _ => haccept true (b :: rest)) fun _ => .error

/-! ## The parts of lists and objects -/

theorem carries_toElement (first : Bool) (bs : Bytes) :
    Carries Any more (toElement first bs) (toElement first (bs ++ more)) := by
  unfold toElement
  cases h : skipSpace bs with
  | nil => exact .error
  | cons b rest =>
    rw [skipSpace_append_of_eq h]
    refine .ite (fun _ => .pair false (b :: rest)) fun _ => .ite (fun _ => .pair true (b :: rest))
      fun _ => .ite (fun _ => ?_) fun _ => .error
    cases h' : skipSpace rest with
    | nil => exact .error
    | cons c left =>
      rw [skipSpace_append_of_eq h']
      exact .ite (fun _ => .error) fun _ => .pair true (c :: left)

theorem carries_toName (first : Bool) (bs : Bytes) :
    Carries Any more (toName first bs) (toName first (bs ++ more)) := by
  unfold toName
  cases h : skipSpace bs with
  | nil => exact .error
  | cons b rest =>
    rw [skipSpace_append_of_eq h]
    refine .ite (fun _ => .pair false (b :: rest)) fun _ =>
      .ite (fun _ => .ite (fun _ => .pair true rest) fun _ => .error)
      fun _ => .ite (fun _ => ?_) fun _ => .error
    cases h' : skipSpace rest with
    | nil => exact .error
    | cons c left =>
      rw [skipSpace_append_of_eq h']
      exact .ite (fun _ => .pair true left) fun _ => .ite (fun _ => .error) fun _ => .error

theorem carries_endArray (bs : Bytes) :
    Carries Any more (endArray bs) (endArray (bs ++ more)) := by
  unfold endArray
  cases h : skipSpace bs with
  | nil => exact .error
  | cons b rest =>
    rw [skipSpace_append_of_eq h]
    refine .ite (fun _ => .ok rest) fun _ => .ite (fun _ => ?_) fun _ => .error
    split <;> exact .error

/-! ## Records -/

theorem carries_readSlot (t : RecordType) (n : Nat) (field : Field) (bs : Bytes) :
    Carries Stops more (readSlot t n field bs) (readSlot t n field (bs ++ more)) :=
  (carries_toElement _ bs).any_bind fun p =>
    .ite (fun _ => carries_readInteger field.type p.2) fun _ => .error

theorem carries_readPair (t : RecordType) (bs : Bytes) :
    Carries Any more (readPair t bs) (readPair t (bs ++ more)) := by
  refine (carries_readSlot t 0 t.first bs).stops_bind ?_ fun ⟨a, rest⟩ => ?_
  · rintro ⟨a, _⟩ r rfl h
    cases h
  refine (carries_readSlot t 1 t.second rest).stops_bind ?_ fun ⟨b, rest⟩ => ?_
  · rintro ⟨b, _⟩ r rfl h
    cases h
  exact (carries_endArray rest).any_bind fun rest => .pair (a, b) rest

theorem carries_complete (t : RecordType) (s : Slots) (bs : Bytes) :
    Carries Any more (s.complete t bs) (s.complete t (bs ++ more)) := by
  unfold Slots.complete
  split
  · exact .error
  · exact .error
  · exact .pair _ bs

theorem carries_readField (field : Field) (taken : Bool) (bs : Bytes) :
    Carries Stops more (readField field taken bs) (readField field taken (bs ++ more)) :=
  .ite (fun _ => .error) fun _ =>
    (carries_readColon bs).any_bind fun rest => carries_readInteger field.type rest

theorem carries_readMember (t : RecordType) (s : Slots) (name : List Char) (bs : Bytes) :
    Carries Stops more (readMember t s name bs) (readMember t s name (bs ++ more)) := by
  refine .ite (fun _ => ?_) fun _ => .ite (fun _ => ?_) fun _ => ?_
  · refine (carries_readField t.first s.first.isSome bs).bind ?_ fun p _ => .pair _ p.2
    rintro p _ - ⟨⟩ hstops
    exact hstops
  · refine (carries_readField t.second s.second.isSome bs).bind ?_ fun p _ => .pair _ p.2
    rintro p _ - ⟨⟩ hstops
    exact hstops
  · refine (carries_readColon bs).any_bind fun rest => ?_
    refine (carries_skipParts [] rest).bind ?_ fun left _ => .pair s left
    rintro p _ - ⟨⟩ hstops
    exact hstops

/-- The end of an object has not been passed over yet. -/
theorem exists_cons_of_toName {first : Bool} (h : toName first bs = .ok (false, rest)) :
    ∃ b left, rest = b :: left := by
  unfold toName at h
  split at h
  · cases h
  · rename_i b left _
    split at h
    · cases h
      exact ⟨b, left, rfl⟩
    · -- everything else is a name or a fault
      repeat' split at h
      all_goals cases h

/-- Only a member may end where the bytes do; the end of an object shows itself. -/
theorem carries_readNextMember (t : RecordType) (first : Bool) (s : Slots) (bs : Bytes) :
    Carries (fun p => p.1 = none ∨ p.2 ≠ []) more (readNextMember t first s bs)
      (readNextMember t first s (bs ++ more)) := by
  refine (carries_toName first bs).bind (fun _ _ _ _ _ => trivial) fun ⟨again, rest⟩ hname => ?_
  cases again with
  | true =>
    refine (carries_readString rest).any_bind fun ⟨name, left⟩ => ?_
    refine (carries_readMember t s name left).bind ?_ fun p _ => .pair _ p.2
    rintro p _ - ⟨⟩ (hnone | hstops)
    · cases hnone
    · exact hstops
  | false =>
    obtain ⟨b, left, rfl⟩ := exists_cons_of_toName hname
    exact .pair none left

theorem carries_readMembers (t : RecordType) (first : Bool) (s : Slots) (bs : Bytes) :
    Carries Any more (readMembers t first s bs) (readMembers t first s (bs ++ more)) := by
  fun_induction readMembers t first s bs with
  | case1 => exact .error
  | case2 first s bs rest hmember =>
    rw [readMembers_eq t first s (bs ++ more),
      carries_readNextMember t first s bs _ hmember (.inl rfl)]
    exact carries_complete t s rest
  | case3 first s bs s' rest hmember ih =>
    intro r hr hany
    have hrest : rest ≠ [] := by
      rintro rfl
      rw [readMembers_eq] at hr
      cases hr
    rw [readMembers_eq t first s (bs ++ more),
      carries_readNextMember t first s bs _ hmember (.inr hrest)]
    exact ih r hr hany

theorem carries_readRecord (t : RecordType) (bs : Bytes) :
    Carries Any more (readRecord t bs) (readRecord t (bs ++ more)) := by
  unfold readRecord
  cases h : skipSpace bs with
  | nil => exact .error
  | cons b rest =>
    rw [skipSpace_append_of_eq h]
    exact .ite (fun _ => carries_readPair t rest) fun _ =>
      .ite (fun _ => carries_readMembers t true {} rest) fun _ => .error

theorem carries_readSpan (bs : Bytes) :
    Carries Any more (readSpan bs) (readSpan (bs ++ more)) :=
  (carries_readRecord .span bs).map (fun _ h => h) fun _ => rfl

theorem carries_readEntry (bs : Bytes) :
    Carries Any more (readEntry bs) (readEntry (bs ++ more)) :=
  (carries_readRecord .entry bs).map (fun _ h => h) fun _ => rfl

/-! ## Lists -/

theorem carries_readNextElement (first : Bool) (bs : Bytes) :
    Carries Any more (readNextElement first bs) (readNextElement first (bs ++ more)) :=
  (carries_toElement first bs).any_bind fun p =>
    .ite (fun _ => (carries_readEntry p.2).any_bind fun e => .pair _ e.2) fun _ =>
      (carries_endArray p.2).any_bind fun rest => .pair none rest

theorem carries_readElements (first : Bool) (bs : Bytes) :
    Carries Any more (readElements first bs) (readElements first (bs ++ more)) := by
  fun_induction readElements first bs with
  | case1 => exact .error
  | case2 first bs rest hnext =>
    rw [readElements_eq first (bs ++ more), carries_readNextElement first bs _ hnext trivial]
    exact .pair [] rest
  | case3 first bs e rest hnext ih =>
    rw [readElements_eq first (bs ++ more), carries_readNextElement first bs _ hnext trivial]
    exact ih.map (fun _ h => h) fun _ => rfl

theorem carries_readEntries (bs : Bytes) :
    Carries Any more (readEntries bs) (readEntries (bs ++ more)) := by
  unfold readEntries
  cases h : skipSpace bs with
  | nil => exact .error
  | cons b rest =>
    rw [skipSpace_append_of_eq h]
    exact .ite (fun _ => carries_readElements true rest) fun _ => .error

/-! ## Whole texts -/

/-- **A text that is cut anywhere is not read**, if its reader shows the end of the value and the
value is all of the text. -/
theorem readAll_of_cut {α : Type} {read : Reader α} {text part : Bytes} {a : α}
    (hread : ∀ bs more, Carries Any more (read bs) (read (bs ++ more)))
    (htext : read text = .ok (a, [])) (hpart : part <+: text) (hne : part ≠ text) :
    ∃ f, readAll read part = .error f := by
  obtain ⟨missing, rfl⟩ := hpart
  cases h : readAll read part with
  | error f => exact ⟨f, rfl⟩
  | ok a' =>
    obtain ⟨⟨a', rest⟩, hpart, -⟩ := of_bind_eq_ok h
    -- in front of what is missing the same is read, and all of that is left
    have hall := hread part missing _ hpart trivial
    rw [htext] at hall
    have hmissing : rest ++ missing = [] := (Prod.mk.inj (Except.ok.inj hall)).2.symm
    rw [(List.append_eq_nil_iff.1 hmissing).2, List.append_nil] at hne
    exact absurd rfl hne

end AgeReport.Json
