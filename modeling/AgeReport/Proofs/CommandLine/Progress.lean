import AgeReport.Proofs.CommandLine.Grammar

/-!
# One group after the other

Between two groups nothing is pending. An option with its value behind it stays pending until the
next option begins, but no command line is accepted or refused for that: reading on from there comes
to the same as checking it at once.

Results:
* `step_eq_ok_iff`, `step_waiting_none`: the arguments that begin an option, and those that an
  option takes for its value.
* `finish_waiting_some`: a pending option that has its value is as good as checked.
* `finish_of_opens_none`, `finish_of_opens_some`: what becomes of a command line that begins with an
  option.
-/

namespace AgeReport.CommandLine

variable {s : Setting} {o : Opt} {b : Bound} {given : List Setting}

/-! ## Reading to the end -/

namespace Progress

/-- Reads arguments to their end, from some progress on. -/
def finish (p : Progress) (arguments : List Bytes) : Except Fault (List Setting) := do
  (← p.scan arguments).settle

/-- The progress in which nothing is pending. -/
def settled (given : List Setting) : Progress := ⟨given, none⟩

/-- The progress in which an option waits, for its value or to be checked with it. -/
def waiting (given : List Setting) (o : Opt) (value : Option Bytes) : Progress :=
  ⟨given, some (o, value)⟩

variable {p p' : Progress} {a : Bytes} {rest : List Bytes} {out : List Setting}

theorem finish_nil (p : Progress) : p.finish [] = p.settle := rfl

theorem finish_terminator (h : shape a = .terminator) : p.finish [a] = p.settle := by
  simp only [finish, scan, h]
  rfl

theorem finish_terminator_cons (h : shape a = .terminator) (b : Bytes) (rest : List Bytes) :
    p.finish (a :: b :: rest) = .error (.unexpected (Text.lossy b)) := by
  simp only [finish, scan, h]
  rfl

theorem finish_cons (h : shape a ≠ .terminator) (rest : List Bytes) :
    p.finish (a :: rest) = p.step a >>= fun p' => p'.finish rest := by
  rw [finish, scan]
  · cases p.step a <;> rfl
  · exact fun ha _ => h ha
  · exact fun _ _ ha _ => h ha

theorem settle_settled (given : List Setting) : (settled given).settle = .ok given := rfl

theorem request_ne_ok (answer : Fault) : p.request answer ≠ .ok p' := by
  intro h
  obtain ⟨g, -, hg⟩ := bind_eq_ok_iff.1 h
  cases hg

/-- Beginning an option settles what is pending, and goes on from there. -/
theorem beginOption_eq_ok_iff {value : Option Bytes} : p.beginOption o value = .ok p' ↔
    ∃ g, p.settle = .ok g ∧ (settled g).beginOption o value = .ok p' :=
  bind_eq_ok_iff

/-- The argument with which an option begins, and the value that is attached to it. -/
inductive Opens : Bytes → Opt → Option Bytes → Prop
  | long (o : Opt) : Opens (Text.bytes o.longName) o none
  | longEquals (o : Opt) (v : Bytes) : Opens (Text.bytes o.longName ++ 0x3D :: v) o (some v)
  | letter (b : Bound) (v : Bytes) : Opens (Text.bytes (shortName b) ++ v) (.year b) (attached v)

theorem looksNumeric_of_not_digit {d : UInt8} (h : Decimal.isDigitByte d = false) (bs : Bytes) :
    looksNumeric (d :: bs) = false := by
  cases hmark : d == 0x65 || d == 0x45 <;>
    simp only [looksNumeric, List.takeWhile_cons, List.dropWhile_cons, hmark, h, Bool.not_true,
      Bool.not_false, Bool.false_eq_true, ↓reduceIte, List.isEmpty_nil, Bool.and_false,
      Bool.false_and, List.dropWhile_nil]

theorem shape_letter (b : Bound) (v : Bytes) : ∃ d,
    Text.bytes (shortName b) ++ v = 0x2D :: d :: v ∧
      shape (Text.bytes (shortName b) ++ v) = .short (d :: v) ∧ looksNumeric (d :: v) = false := by
  cases b with
  | birth => exact ⟨0x62, rfl, rfl, looksNumeric_of_not_digit (by decide) v⟩
  | current => exact ⟨0x63, rfl, rfl, looksNumeric_of_not_digit (by decide) v⟩

theorem Opens.shape_ne {value : Option Bytes} (h : Opens a o value) : shape a ≠ .terminator := by
  cases h with
  | long o => simp [shape_longName]
  | longEquals o v => simp [shape_longName_equals]
  | letter b v =>
    obtain ⟨d, -, hshape, -⟩ := shape_letter b v
    simp [hshape]

theorem opens_of_shape {value : Option Bytes}
    (h : shape a = .long (Text.bytes (Switch.option o).long) value) : Opens a o value := by
  have ha := eq_of_shape_long h
  rw [← List.cons_append, ← List.cons_append, ← bytes_longName] at ha
  rw [ha]
  cases value with
  | none =>
    rw [Option.elim_none, List.append_nil]
    exact .long o
  | some v => exact .longEquals o v

theorem opens_of_long {name : Bytes} {value : Option Bytes} (hshape : shape a = .long name value)
    (h : p.long name value = .ok p') : ∃ o, Opens a o value ∧ p.beginOption o value = .ok p' := by
  unfold long at h
  split at h
  · cases h
  · rename_i o hname
    rw [eq_long_of_ofLong? hname] at hshape
    exact ⟨o, opens_of_shape hshape, h⟩
  · cases h
  · exact absurd h (request_ne_ok _)
  · exact absurd h (request_ne_ok _)

theorem opens_of_letter {d : UInt8} {bs : Bytes} (hshape : shape a = .short (d :: bs))
    (h : p.letter d bs = .ok p') : ∃ o value, Opens a o value ∧ p.beginOption o value = .ok p' := by
  obtain ⟨rfl, -⟩ := eq_of_shape_short hshape
  unfold letter at h
  split at h
  · cases h
  rename_i c v hnext
  split at h
  · cases h
  · rename_i o hletter
    obtain ⟨b, rfl, heq⟩ := eq_letter_of_next hnext hletter
    rw [heq]
    exact ⟨_, _, .letter b v, h⟩
  · exact absurd h (request_ne_ok _)
  · exact absurd h (request_ne_ok _)

theorem step_of_opens {value : Option Bytes} (h : Opens a o value) :
    p.step a = p.beginOption o value := by
  cases h with
  | long o =>
    simp only [step, shape_longName, long, Text.text?_bytes, Option.bind_some, Switch.ofLong?_long]
  | longEquals o v =>
    simp only [step, shape_longName_equals, long, Text.text?_bytes, Option.bind_some,
      Switch.ofLong?_long]
  | letter b v =>
    obtain ⟨d, ha, hshape, hnumeric⟩ := shape_letter b v
    have hletter : ∃ c, Text.next d v = (.char c, v) ∧
        Switch.ofShort? c = some (.option (.year b)) := by
      cases b <;> cases ha
      · exact ⟨'b', Text.next_of_lt (by decide) v, by decide⟩
      · exact ⟨'c', Text.next_of_lt (by decide) v, by decide⟩
    obtain ⟨c, hnext, hc⟩ := hletter
    simp only [step, hshape, hnumeric, Bool.and_false, Bool.false_eq_true, ↓reduceIte, letter,
      hnext, hc]

theorem step_eq_ok_iff (hp : ∀ o, p.pending ≠ some (o, none)) : p.step a = .ok p' ↔
    ∃ o value, Opens a o value ∧ p.beginOption o value = .ok p' := by
  have hword : ∀ bs, p.word bs ≠ .ok p' := by
    intro bs h
    unfold word at h
    split at h
    · rename_i hpending
      exact hp _ hpending
    · cases h
  have hnumber : p.awaitsNumber = false := by
    unfold awaitsNumber
    split
    · rename_i hpending
      exact absurd hpending (hp _)
    · rfl
  constructor
  · intro h
    unfold step at h
    split at h
    · rename_i name value hshape
      obtain ⟨o, hopens, hbegin⟩ := opens_of_long hshape h
      exact ⟨o, value, hopens, hbegin⟩
    · rename_i d bs hshape
      rw [hnumber, Bool.false_and, if_neg Bool.false_ne_true] at h
      exact opens_of_letter hshape h
    · exact absurd h (hword a)
  · rintro ⟨o, value, hopens, hbegin⟩
    rw [step_of_opens hopens, hbegin]

/-- What an option that waits for its value takes for it. -/
def Takes (o : Opt) (a : Bytes) : Prop :=
  shape a = .word ∨ ∃ b d bs, o = .year b ∧ shape a = .short (d :: bs) ∧
    looksNumeric (d :: bs) = true

theorem awaitsNumber_waiting : (waiting given o none).awaitsNumber = true ↔ ∃ b, o = .year b := by
  cases o <;> simp [awaitsNumber, waiting]

theorem beginOption_waiting_none {o' : Opt} {value : Option Bytes} :
    (waiting given o none).beginOption o' value ≠ .ok p' := by
  intro h
  obtain ⟨g, hg, -⟩ := beginOption_eq_ok_iff.1 h
  cases hg

theorem step_waiting_none (ha : shape a ≠ .terminator) :
    (waiting given o none).step a = .ok p' ↔ Takes o a ∧ p' = waiting given o (some a) := by
  constructor
  · intro h
    unfold step at h
    split at h
    · rename_i name value hshape
      obtain ⟨o', -, hbegin⟩ := opens_of_long hshape h
      exact absurd hbegin beginOption_waiting_none
    · rename_i d bs hshape
      split at h
      · rename_i hnumeric
        rw [Bool.and_eq_true, awaitsNumber_waiting] at hnumeric
        obtain ⟨⟨b, rfl⟩, hnumeric⟩ := hnumeric
        cases h
        exact ⟨.inr ⟨b, d, bs, rfl, hshape, hnumeric⟩, rfl⟩
      · obtain ⟨o', value, -, hbegin⟩ := opens_of_letter hshape h
        exact absurd hbegin beginOption_waiting_none
    · rename_i hlong hshort
      cases h
      refine ⟨.inl ?_, rfl⟩
      cases hshape : shape a with
      | terminator => exact absurd hshape ha
      | long name value => exact absurd hshape (hlong name value)
      | short rest =>
        obtain ⟨d, bs, rfl⟩ := List.exists_cons_of_ne_nil (eq_of_shape_short hshape).2
        exact absurd hshape (hshort d bs)
      | word => rfl
  · rintro ⟨hword | ⟨b, d, bs, rfl, hshort, hnumeric⟩, rfl⟩
    · simp only [step, hword]
      rfl
    · simp only [step, hshort, hnumeric, awaitsNumber_waiting.2 ⟨b, rfl⟩, Bool.and_true, ↓reduceIte]
      rfl

/-! ## One group after the other -/

theorem finish_settled_nil : (settled given).finish [] = .ok given := rfl

/-- A pending option that has its value is as good as checked. -/
theorem finish_waiting_some {v : Bytes} {arguments : List Bytes} :
    (waiting given o (some v)).finish arguments = .ok out ↔
      ∃ g, check given o (some v) = .ok g ∧ (settled g).finish arguments = .ok out := by
  have hsettle : (waiting given o (some v)).settle = check given o (some v) := rfl
  have hnil : check given o (some v) = .ok out ↔
      ∃ g, check given o (some v) = .ok g ∧ (settled g).settle = .ok out := by
    constructor
    · intro h
      exact ⟨out, h, rfl⟩
    · rintro ⟨g, h, hg⟩
      cases hg
      exact h
  cases arguments with
  | nil => exact hnil
  | cons a rest =>
    by_cases ha : shape a = .terminator
    · cases rest with
      | nil =>
        simp only [finish_terminator ha, hsettle]
        exact hnil
      | cons b rest => simp [finish_terminator_cons ha]
    · rw [finish_cons ha, bind_eq_ok_iff]
      simp only [finish_cons ha, bind_eq_ok_iff]
      constructor
      · rintro ⟨p', hstep, hrest⟩
        obtain ⟨o', value, hopens, hbegin⟩ := (step_eq_ok_iff (by simp [waiting])).1 hstep
        obtain ⟨g, hg, hbegin⟩ := beginOption_eq_ok_iff.1 hbegin
        exact ⟨g, hg, p', (step_eq_ok_iff (by simp [settled])).2 ⟨o', value, hopens, hbegin⟩, hrest⟩
      · rintro ⟨g, hg, p', hstep, hrest⟩
        obtain ⟨o', value, hopens, hbegin⟩ := (step_eq_ok_iff (by simp [settled])).1 hstep
        refine ⟨p', (step_eq_ok_iff (by simp [waiting])).2 ⟨o', value, hopens, ?_⟩, hrest⟩
        exact beginOption_eq_ok_iff.2 ⟨g, hg, hbegin⟩

/-- An option that waits for its value takes the next argument for it. -/
theorem finish_waiting_none {arguments : List Bytes} :
    (waiting given o none).finish arguments = .ok out ↔
      ∃ v rest, arguments = v :: rest ∧ Takes o v ∧
        (waiting given o (some v)).finish rest = .ok out := by
  have hsettle : (waiting given o none).settle = .error (.valueMissing o) := rfl
  cases arguments with
  | nil => simp [finish_nil, hsettle]
  | cons a rest =>
    by_cases ha : shape a = .terminator
    · have htakes : ¬ Takes o a := by
        rintro (h | ⟨b, d, bs, -, h, -⟩) <;> rw [ha] at h <;> cases h
      cases rest with
      | nil => simp [finish_terminator ha, hsettle, htakes]
      | cons b rest => simp [finish_terminator_cons ha, htakes]
    · rw [finish_cons ha, bind_eq_ok_iff]
      constructor
      · rintro ⟨p', hstep, hrest⟩
        obtain ⟨htakes, rfl⟩ := (step_waiting_none ha).1 hstep
        exact ⟨a, rest, rfl, htakes, hrest⟩
      · rintro ⟨_, _, heq, htakes, hrest⟩
        cases heq
        exact ⟨_, (step_waiting_none ha).2 ⟨htakes, rfl⟩, hrest⟩

/-- A setting whose option is new is added. -/
theorem finish_beginOption_some {v : Bytes} {rest : List Bytes} :
    (∃ p', (settled given).beginOption o (some v) = .ok p' ∧ p'.finish rest = .ok out) ↔
      ∃ s, (s.opt = o ∧ Gives v s) ∧ s.opt ∉ given.map Setting.opt ∧
        (settled (given ++ [s])).finish rest = .ok out := by
  have hbegin : ∀ p', (settled given).beginOption o (some v) = .ok p' ↔
      ∃ g, check given o (some v) = .ok g ∧ settled g = p' := by
    intro p'
    change (check given o (some v) >>= fun g => Except.ok (settled g)) = .ok p' ↔ _
    simp [bind_eq_ok_iff]
  simp only [hbegin, check_eq_ok_iff]
  constructor
  · rintro ⟨p', ⟨g, ⟨s, hs, hnew, rfl⟩, rfl⟩, hrest⟩
    exact ⟨s, hs, hnew, hrest⟩
  · rintro ⟨s, hs, hnew, hrest⟩
    exact ⟨_, ⟨_, ⟨s, hs, hnew, rfl⟩, rfl⟩, hrest⟩

theorem finish_of_opens {value : Option Bytes} (h : Opens a o value) (rest : List Bytes) :
    (settled given).finish (a :: rest) = .ok out ↔
      ∃ p', (settled given).beginOption o value = .ok p' ∧ p'.finish rest = .ok out := by
  rw [finish_cons h.shape_ne, bind_eq_ok_iff, step_of_opens h]

/-- Behind an option without an attached value, the next argument is its value. -/
theorem finish_of_opens_none (h : Opens a o none) (rest : List Bytes) :
    (settled given).finish (a :: rest) = .ok out ↔
      ∃ v back s, rest = v :: back ∧ Takes o v ∧ (s.opt = o ∧ Gives v s) ∧
        s.opt ∉ given.map Setting.opt ∧ (settled (given ++ [s])).finish back = .ok out := by
  have hbegin : (settled given).beginOption o none = .ok (waiting given o none) := rfl
  rw [finish_of_opens h, hbegin]
  constructor
  · rintro ⟨_, ⟨⟩, hrest⟩
    obtain ⟨v, back, rfl, htakes, hback⟩ := finish_waiting_none.1 hrest
    obtain ⟨_, hcheck, hback⟩ := finish_waiting_some.1 hback
    obtain ⟨s, hs, hnew, rfl⟩ := check_eq_ok_iff.1 hcheck
    exact ⟨v, back, s, rfl, htakes, hs, hnew, hback⟩
  · rintro ⟨v, back, s, rfl, htakes, hs, hnew, hback⟩
    refine ⟨_, rfl, finish_waiting_none.2 ⟨v, back, rfl, htakes, finish_waiting_some.2 ?_⟩⟩
    exact ⟨_, check_eq_ok_iff.2 ⟨s, hs, hnew, rfl⟩, hback⟩

/-- An option with an attached value is checked at once. -/
theorem finish_of_opens_some {v : Bytes} (h : Opens a o (some v)) (rest : List Bytes) :
    (settled given).finish (a :: rest) = .ok out ↔
      ∃ s, (s.opt = o ∧ Gives v s) ∧ s.opt ∉ given.map Setting.opt ∧
        (settled (given ++ [s])).finish rest = .ok out := by
  rw [finish_of_opens h, finish_beginOption_some]

end Progress

end AgeReport.CommandLine
