import AgeReport.Proofs.Json.Skipped

/-!
# Reading in front of more bytes

A reader goes through its bytes from left to right and looks at no more of them than it has to: at
those of its value, and at one behind it where only that shows the end of the value. So what is read
stays as it is when more bytes are put behind the last one, except that a number which ended where
the bytes did may go on.

An answer *carries over* if the same is answered in front of more bytes. The relation goes through
sequencing and branches, so each reader is gone through once, in the order of its definition.

Results:
* `carries_readString`, `carries_skipString`: strings, which show their own end.
* `carries_readNumber`, `carries_skipNumber`: numbers, which do not.
* `carries_skipParts`: values of any kind and depth.
-/

namespace AgeReport.Json

open Decimal

/-- What readers answer, among it the bytes that are left. -/
class Answer (ρ : Type) where
  /-- The bytes that are left. -/
  left : ρ → Bytes
  /-- The answer with more bytes behind those that are left. -/
  behind : ρ → Bytes → ρ

namespace Answer

instance : Answer Bytes := ⟨id, (· ++ ·)⟩

instance {α : Type} : Answer (α × Bytes) := ⟨Prod.snd, fun p more => (p.1, p.2 ++ more)⟩

instance : Answer Opening where
  left := Opening.rest
  behind
    | .scalar rest, more => .scalar (rest ++ more)
    | .bracket b rest, more => .bracket b (rest ++ more)

end Answer

open Answer

/-- Any answer. -/
def Any {ρ : Type} (_ : ρ) : Prop := True

/-- An answer that leaves a byte. -/
def Stops {ρ : Type} [Answer ρ] (r : ρ) : Prop := left r ≠ []

/-- Those answers of `x` of which `p` holds are also answered by `y`, with `more` bytes behind. -/
def Carries {ρ : Type} [Answer ρ] (p : ρ → Prop) (more : Bytes) (x y : Except Fault ρ) : Prop :=
  ∀ r, x = .ok r → p r → y = .ok (behind r more)

namespace Carries

variable {ρ τ : Type} [Answer ρ] [Answer τ] {p : ρ → Prop} {q : τ → Prop} {more : Bytes}
  {x x' y y' : Except Fault ρ}

theorem error {f : Fault} : Carries p more (.error f) y := by
  intro r h
  cases h

theorem ok (r : ρ) : Carries p more (.ok r) (.ok (behind r more)) := by
  rintro _ ⟨⟩ -
  rfl

theorem pair {α : Type} {p : α × Bytes → Prop} (a : α) (bs : Bytes) :
    Carries p more (.ok (a, bs)) (.ok (a, bs ++ more)) :=
  ok (a, bs)

theorem of_any (h : Carries Any more x y) : Carries p more x y :=
  fun r hr _ => h r hr trivial

/-- Nothing is said about answers that leave nothing. -/
theorem of_left_nil (h : ∀ r, x = .ok r → (left r).length ≤ 0) : Carries Stops more x y :=
  fun r hr hleft => absurd (List.length_eq_zero_iff.1 (Nat.le_zero.1 (h r hr))) hleft

theorem ite {c : Prop} [Decidable c] (h : c → Carries p more x y)
    (h' : ¬ c → Carries p more x' y') :
    Carries p more (if c then x else x') (if c then y else y') := by
  by_cases hc : c
  · rw [if_pos hc, if_pos hc]
    exact h hc
  · rw [if_neg hc, if_neg hc]
    exact h' hc

/-- One reader after another. What the first answers has to carry over wherever the second comes
through. -/
theorem bind {f g : ρ → Except Fault τ} (h : Carries p more x y)
    (hneeds : ∀ r t, x = .ok r → f r = .ok t → q t → p r)
    (hnext : ∀ r, x = .ok r → Carries q more (f r) (g (behind r more))) :
    Carries q more (x >>= f) (y >>= g) := by
  intro t ht hq
  obtain ⟨r, hr, ht⟩ := of_bind_eq_ok ht
  rw [h r hr (hneeds r t hr ht hq), ok_bind]
  exact hnext r hr t ht hq

/-- Behind a reader that shows its own end. -/
theorem any_bind {f g : ρ → Except Fault τ} (h : Carries Any more x y)
    (hnext : ∀ r, Carries q more (f r) (g (behind r more))) :
    Carries q more (x >>= f) (y >>= g) :=
  h.bind (fun _ _ _ _ _ => trivial) fun r _ => hnext r

/-- In front of a reader that does not come through on nothing. -/
theorem stops_bind {f g : ρ → Except Fault τ} (h : Carries Stops more x y)
    (hneeds : ∀ r t, left r = [] → f r ≠ .ok t)
    (hnext : ∀ r, Carries q more (f r) (g (behind r more))) :
    Carries q more (x >>= f) (y >>= g) :=
  h.bind (fun r t _ ht _ hnil => hneeds r t hnil ht) fun r _ => hnext r

theorem map {f : ρ → τ} (h : Carries p more x y) (hleft : ∀ r, q (f r) → p r)
    (hbehind : ∀ r, f (behind r more) = behind (f r) more) :
    Carries q more (x.map f) (y.map f) := by
  intro t ht hq
  obtain ⟨r, hr, rfl⟩ := of_map_eq_ok ht
  rw [h r hr (hleft r hq), Except.map, hbehind]

end Carries

variable {bs rest : Bytes} {b : UInt8} {more : Bytes}

/-! ## Blanks, digits and words -/

theorem ne_nil_of_length_le (h : rest.length ≤ bs.length) (hrest : rest ≠ []) : bs ≠ [] := by
  rintro rfl
  exact hrest (List.length_eq_zero_iff.1 (Nat.le_zero.1 h))

theorem dropWhile_append_of_eq {p : UInt8 → Bool} (h : bs.dropWhile p = b :: rest) (more : Bytes) :
    (bs ++ more).dropWhile p = b :: (rest ++ more) := by
  rw [List.dropWhile_append, h]
  rfl

theorem takeWhile_append_of_eq {p : UInt8 → Bool} (h : bs.dropWhile p = b :: rest) (more : Bytes) :
    (bs ++ more).takeWhile p = bs.takeWhile p := by
  have hsplit := congrArg List.length (List.takeWhile_append_dropWhile (p := p) (l := bs))
  rw [List.length_append, h, List.length_cons] at hsplit
  rw [List.takeWhile_append, if_neg (by omega)]

theorem skipSpace_append_of_eq (h : skipSpace bs = b :: rest) (more : Bytes) :
    skipSpace (bs ++ more) = b :: (rest ++ more) :=
  dropWhile_append_of_eq h more

/-- What stands behind digits, if it leaves anything, was not reached at the end of the bytes. -/
theorem Carries.behind_digits {ρ : Type} [Answer ρ] {read : Bytes → Except Fault ρ}
    (hread : ∀ bs, Carries Stops more (read bs) (read (bs ++ more)))
    (hnil : ∀ r, read [] = .ok r → (left r).length ≤ 0) (bs : Bytes) :
    Carries Stops more (read (skipDigits bs)) (read (skipDigits (bs ++ more))) := by
  cases h : skipDigits bs with
  | nil => exact .of_left_nil hnil
  | cons b rest =>
    rw [show skipDigits (bs ++ more) = _ from dropWhile_append_of_eq h more]
    exact hread (b :: rest)

theorem carries_readWord (word bs : Bytes) :
    Carries Any more (readWord word bs) (readWord word (bs ++ more)) := by
  induction word generalizing bs with
  | nil => exact .ok bs
  | cons w word ih =>
    cases bs with
    | nil => exact .error
    | cons b bs => exact .ite (fun _ => ih bs) fun _ => .error

/-! ## Strings -/

theorem carries_readHex (bs : Bytes) :
    Carries Any more (readHex bs) (readHex (bs ++ more)) := by
  rintro ⟨n, rest⟩ h -
  unfold readHex at h
  split at h
  · split at h
    · rename_i ha hb hc hd
      cases h
      simp only [List.cons_append, readHex, ha, hb, hc, hd]
      rfl
    · cases h
  · cases h

theorem carries_readTrailing (high : Nat) (bs : Bytes) :
    Carries Any more (readTrailing high bs) (readTrailing high (bs ++ more)) := by
  unfold readTrailing
  split
  · exact .error
  · exact .error
  · refine (carries_readHex _).any_bind ?_
    rintro ⟨low, rest⟩
    exact .ite (fun _ => .pair _ rest) fun _ => .error
  · exact .error
  · exact .error

theorem carries_readCodeUnit (bs : Bytes) :
    Carries Any more (readCodeUnit bs) (readCodeUnit (bs ++ more)) :=
  (carries_readHex bs).any_bind fun ⟨n, rest⟩ => .ite (fun _ => .error) fun _ =>
    .ite (fun _ => carries_readTrailing n rest) fun _ => .pair _ rest

theorem carries_readEscape (bs : Bytes) :
    Carries Any more (readEscape bs) (readEscape (bs ++ more)) := by
  cases bs with
  | nil => exact .error
  | cons b bs =>
    simp only [List.cons_append, readEscape]
    cases shortEscape? b with
    | none => exact .ite (fun _ => carries_readCodeUnit bs) fun _ => .error
    | some c => exact .ok (c, bs)

/-- A string ends at its closing quote. -/
theorem carries_readContent (bs : Bytes) :
    Carries Any more (readContent bs) (readContent (bs ++ more)) := by
  -- along the recursion of `readContent`, which goes on behind each escape
  fun_induction readContent bs with
  | case1 => exact .error
  | case2 bs segment rest hd =>
    rw [readContent_eq (bs ++ more), dropWhile_append_of_eq hd, takeWhile_append_of_eq hd]
    exact .pair segment rest
  | case3 => exact .error
  | case4 bs segment rest c rest' he hd _ ih =>
    have hescape : Carries Any more (readEscape rest) (readEscape (rest ++ more)) :=
      carries_readEscape rest
    have he' := hescape _ he trivial
    rw [readContent_eq (bs ++ more), dropWhile_append_of_eq hd, takeWhile_append_of_eq hd]
    dsimp only
    rw [if_neg (by decide), if_pos rfl, he', ok_bind]
    exact ih.map (fun _ h => h) fun _ => rfl
  | case5 => exact .error

theorem carries_readString (bs : Bytes) :
    Carries Any more (readString bs) (readString (bs ++ more)) := by
  refine (carries_readContent bs).any_bind ?_
  rintro ⟨content, rest⟩
  dsimp only [behind]
  cases Text.chars content with
  | ok cs => exact .pair cs rest
  | error bad => exact .error

/-! ## Numbers -/

theorem carries_endFloat (positive : Bool) (significand : Nat) (exponent : Int) (bs : Bytes) :
    Carries Any more (endFloat positive significand exponent bs)
      (endFloat positive significand exponent (bs ++ more)) := by
  unfold endFloat
  cases floatOf? positive significand exponent with
  | none => exact .error
  | some f => exact .pair _ bs

theorem carries_endHuge (positive : Bool) (significand : Nat) (upward : Bool) (bs : Bytes) :
    Carries Stops more (endHuge positive significand upward bs)
      (endHuge positive significand upward (bs ++ more)) :=
  .ite (fun _ => .error) fun _ =>
    Carries.behind_digits (.pair _) (by rintro _ ⟨⟩; exact Nat.le_refl _) bs

theorem carries_readExponentDigits (positive : Bool) (significand : Nat) (start : Int)
    (upward : Bool) (exponent : Nat) (bs : Bytes) :
    Carries Stops more (readExponentDigits positive significand start upward exponent bs)
      (readExponentDigits positive significand start upward exponent (bs ++ more)) := by
  induction bs generalizing exponent with
  | nil => exact .of_left_nil fun _ => readExponentDigits_length_le
  | cons b bs ih =>
    simp only [List.cons_append, readExponentDigits]
    cases digitByte? b with
    | none => exact (carries_endFloat _ _ _ (b :: bs)).of_any
    | some d => exact .ite (fun _ => carries_endHuge _ _ _ bs) fun _ => ih _

theorem carries_readExponentValue (positive : Bool) (significand : Nat) (start : Int)
    (upward : Bool) (bs : Bytes) :
    Carries Stops more (readExponentValue positive significand start upward bs)
      (readExponentValue positive significand start upward (bs ++ more)) := by
  cases bs with
  | nil => exact .error
  | cons b bs =>
    simp only [List.cons_append, readExponentValue]
    cases digitByte? b with
    | none => exact .error
    | some d => exact carries_readExponentDigits _ _ _ _ d bs

theorem readExponent_cons (positive : Bool) (significand : Nat) (start : Int) (b : UInt8)
    (bs : Bytes) :
    readExponent positive significand start (b :: bs) =
      if b = 0x2B then readExponentValue positive significand start true bs
      else if b = 0x2D then readExponentValue positive significand start false bs
      else readExponentValue positive significand start true (b :: bs) := by
  unfold readExponent
  split <;> simp_all

theorem carries_readExponent (positive : Bool) (significand : Nat) (start : Int) (bs : Bytes) :
    Carries Stops more (readExponent positive significand start bs)
      (readExponent positive significand start (bs ++ more)) := by
  cases bs with
  | nil => exact .error
  | cons b bs =>
    rw [List.cons_append, readExponent_cons, readExponent_cons]
    exact .ite (fun _ => carries_readExponentValue _ _ _ true bs) fun _ =>
      .ite (fun _ => carries_readExponentValue _ _ _ false bs) fun _ =>
        carries_readExponentValue _ _ _ true (b :: bs)

theorem carries_endFraction (positive : Bool) (significand : Nat) (exponent : Int) (bs : Bytes) :
    Carries Stops more (endFraction positive significand exponent bs)
      (endFraction positive significand exponent (bs ++ more)) := by
  cases bs with
  | nil => exact .of_left_nil fun _ => endFraction_length_le
  | cons b bs =>
    exact .ite (fun _ => carries_readExponent _ _ _ bs) fun _ =>
      (carries_endFloat _ _ _ (b :: bs)).of_any

theorem carries_readFractionDigits (positive : Bool) (significand : Nat) (exponent : Int)
    (started : Bool) (bs : Bytes) :
    Carries Stops more (readFractionDigits positive significand exponent started bs)
      (readFractionDigits positive significand exponent started (bs ++ more)) := by
  induction bs generalizing significand exponent started with
  | nil => exact .of_left_nil fun _ => readFractionDigits_length_le
  | cons b bs ih =>
    simp only [List.cons_append, readFractionDigits]
    cases digitByte? b with
    | none => exact .ite (fun _ => carries_endFraction _ _ _ (b :: bs)) fun _ => .error
    | some d =>
      refine .ite (fun _ => ?_) fun _ => ih _ _ _
      exact .behind_digits (carries_endFraction _ _ _) (fun _ => endFraction_length_le) bs

theorem carries_readLongWhole (positive : Bool) (significand : Nat) (exponent : Int) (bs : Bytes) :
    Carries Stops more (readLongWhole positive significand exponent bs)
      (readLongWhole positive significand exponent (bs ++ more)) := by
  induction bs generalizing exponent with
  | nil => exact .of_left_nil fun _ => readLongWhole_length_le
  | cons b bs ih =>
    exact .ite (fun _ => ih _) fun _ => .ite (fun _ => carries_readFractionDigits _ _ _ _ bs)
      fun _ => carries_endFraction _ _ _ (b :: bs)

theorem carries_endWhole (positive : Bool) (significand : Nat) (bs : Bytes) :
    Carries Stops more (endWhole positive significand bs)
      (endWhole positive significand (bs ++ more)) := by
  cases bs with
  | nil => exact .of_left_nil fun _ => endWhole_length_le
  | cons b bs =>
    exact .ite (fun _ => carries_readFractionDigits _ _ _ _ bs) fun _ =>
      .ite (fun _ => carries_readExponent _ _ _ bs) fun _ => .pair _ (b :: bs)

theorem carries_readWhole (positive : Bool) (significand : Nat) (bs : Bytes) :
    Carries Stops more (readWhole positive significand bs)
      (readWhole positive significand (bs ++ more)) := by
  induction bs generalizing significand with
  | nil => exact .of_left_nil fun _ => readWhole_length_le
  | cons b bs ih =>
    simp only [List.cons_append, readWhole]
    cases digitByte? b with
    | none => exact carries_endWhole _ _ (b :: bs)
    | some d => exact .ite (fun _ => carries_readLongWhole _ _ _ bs) fun _ => ih _

theorem carries_readNumber (positive : Bool) (bs : Bytes) :
    Carries Stops more (readNumber positive bs) (readNumber positive (bs ++ more)) := by
  cases bs with
  | nil => exact .error
  | cons b bs =>
    simp only [List.cons_append, readNumber]
    cases digitByte? b with
    | none => exact .error
    | some d =>
      cases d with
      | zero =>
        cases bs with
        | nil => exact .of_left_nil fun _ => endWhole_length_le
        | cons c rest => exact .ite (fun _ => .error) fun _ => carries_endWhole _ _ (c :: rest)
      | succ d => exact carries_readWhole _ _ bs

/-! ## Skipping -/

theorem carries_skipEscape (bs : Bytes) :
    Carries Any more (skipEscape bs) (skipEscape (bs ++ more)) := by
  cases bs with
  | nil => exact .error
  | cons b bs =>
    exact .ite (fun _ => .ok bs) fun _ =>
      .ite (fun _ => (carries_readHex bs).map (fun _ h => h) fun _ => rfl) fun _ => .error

theorem carries_skipString (bs : Bytes) :
    Carries Any more (skipString bs) (skipString (bs ++ more)) := by
  fun_induction skipString bs with
  | case1 => exact .error
  | case2 bs rest hd =>
    rw [skipString_eq (bs ++ more), dropWhile_append_of_eq hd]
    exact .ok rest
  | case3 => exact .error
  | case4 bs rest rest' he hd _ ih =>
    have hescape : Carries Any more (skipEscape rest) (skipEscape (rest ++ more)) :=
      carries_skipEscape rest
    have he' := hescape _ he trivial
    rw [skipString_eq (bs ++ more), dropWhile_append_of_eq hd]
    dsimp only
    rw [if_neg (by decide), if_pos rfl, he', ok_bind]
    exact ih
  | case5 => exact .error

theorem carries_skipExponentValue (bs : Bytes) :
    Carries Stops more (skipExponentValue bs) (skipExponentValue (bs ++ more)) := by
  cases bs with
  | nil => exact .error
  | cons b bs =>
    exact .ite (fun _ => Carries.behind_digits .ok (by rintro _ ⟨⟩; exact Nat.le_refl _) bs)
      fun _ => .error

theorem carries_skipExponent (bs : Bytes) :
    Carries Stops more (skipExponent bs) (skipExponent (bs ++ more)) := by
  cases bs with
  | nil => exact .error
  | cons b bs =>
    rw [List.cons_append, skipExponent_cons, skipExponent_cons]
    exact .ite (fun _ => carries_skipExponentValue bs) fun _ => carries_skipExponentValue (b :: bs)

theorem carries_skipOptionalExponent (bs : Bytes) :
    Carries Stops more (skipOptionalExponent bs) (skipOptionalExponent (bs ++ more)) := by
  cases bs with
  | nil => exact .of_left_nil fun _ => skipOptionalExponent_length_le
  | cons b bs => exact .ite (fun _ => carries_skipExponent bs) fun _ => .ok (b :: bs)

theorem carries_skipFraction (bs : Bytes) :
    Carries Stops more (skipFraction bs) (skipFraction (bs ++ more)) := by
  cases bs with
  | nil => exact .error
  | cons b bs =>
    exact .ite (fun _ => .behind_digits carries_skipOptionalExponent
      (fun _ => skipOptionalExponent_length_le) bs) fun _ => .error

theorem carries_skipOptionalFraction (bs : Bytes) :
    Carries Stops more (skipOptionalFraction bs) (skipOptionalFraction (bs ++ more)) := by
  cases bs with
  | nil => exact .of_left_nil fun _ => skipOptionalFraction_length_le
  | cons b bs =>
    exact .ite (fun _ => carries_skipFraction bs) fun _ => carries_skipOptionalExponent (b :: bs)

theorem carries_skipNumber (bs : Bytes) :
    Carries Stops more (skipNumber bs) (skipNumber (bs ++ more)) := by
  cases bs with
  | nil => exact .error
  | cons b bs =>
    simp only [List.cons_append, skipNumber]
    cases digitByte? b with
    | none => exact .error
    | some d =>
      cases d with
      | zero =>
        cases bs with
        | nil => exact .of_left_nil (by rintro _ ⟨⟩; exact Nat.le_refl _)
        | cons c rest =>
          exact .ite (fun _ => .error) fun _ => carries_skipOptionalFraction (c :: rest)
      | succ d =>
        exact .behind_digits carries_skipOptionalFraction
          (fun _ => skipOptionalFraction_length_le) bs

theorem carries_scalar {x y : Except Fault Bytes} (h : Carries Stops more x y) :
    Carries Stops more (x.map Opening.scalar) (y.map Opening.scalar) :=
  h.map (fun _ h => h) fun _ => rfl

theorem carries_skipOpening (b : UInt8) (bs : Bytes) :
    Carries Stops more (skipOpening (b :: bs)) (skipOpening (b :: (bs ++ more))) :=
  .ite (fun _ => carries_scalar (carries_readWord _ bs).of_any) fun _ =>
  .ite (fun _ => carries_scalar (carries_readWord _ bs).of_any) fun _ =>
  .ite (fun _ => carries_scalar (carries_readWord _ bs).of_any) fun _ =>
  .ite (fun _ => carries_scalar (carries_skipNumber bs)) fun _ =>
  .ite (fun _ => carries_scalar (carries_skipNumber (b :: bs))) fun _ =>
  .ite (fun _ => carries_scalar (carries_skipString bs).of_any) fun _ =>
  .ite (fun _ => .ok (Opening.bracket .list bs)) fun _ =>
  .ite (fun _ => .ok (Opening.bracket .object bs)) fun _ => .error

theorem carries_readColon (bs : Bytes) :
    Carries Any more (readColon bs) (readColon (bs ++ more)) := by
  unfold readColon
  cases h : skipSpace bs with
  | nil => exact .error
  | cons b rest =>
    rw [skipSpace_append_of_eq h]
    exact .ite (fun _ => .ok rest) fun _ => .error

theorem carries_skipName (bs : Bytes) :
    Carries Any more (skipName bs) (skipName (bs ++ more)) := by
  unfold skipName
  cases h : skipSpace bs with
  | nil => exact .error
  | cons b rest =>
    rw [skipSpace_append_of_eq h]
    exact .ite (fun _ => (carries_skipString rest).any_bind carries_readColon) fun _ => .error

theorem carries_closeBrackets (brackets : List Bracket) (bs : Bytes) :
    Carries Any more (closeBrackets brackets bs) (closeBrackets brackets (bs ++ more)) := by
  induction brackets generalizing bs with
  | nil => exact .pair _ bs
  | cons bracket outer ih =>
    unfold closeBrackets
    cases h : skipSpace bs with
    | nil => exact .error
    | cons b rest =>
      rw [skipSpace_append_of_eq h]
      exact .ite (fun _ => .pair _ rest) fun _ => .ite (fun _ => ih rest) fun _ => .error

theorem carries_toNextValue (brackets : List Bracket) (bs : Bytes) :
    Carries Any more (toNextValue brackets bs) (toNextValue brackets (bs ++ more)) := by
  unfold toNextValue
  split
  · exact (carries_skipName bs).map (fun _ h => h) fun _ => rfl
  · exact .pair brackets bs

theorem carries_skipPart (brackets : List Bracket) (bs : Bytes) :
    Carries Stops more (skipPart brackets bs) (skipPart brackets (bs ++ more)) := by
  have hbegin : Carries Stops more (skipOpening (skipSpace bs))
      (skipOpening (skipSpace (bs ++ more))) := by
    cases h : skipSpace bs with
    | nil => exact .error
    | cons b rest =>
      rw [skipSpace_append_of_eq h]
      exact carries_skipOpening b rest
  refine hbegin.bind ?_ fun o _ => ?_
  · rintro (rest | ⟨bracket, rest⟩) t - ht hstops
    · obtain ⟨left, hclose, hnext⟩ := of_bind_eq_ok ht
      have h1 := closeBrackets_length_le hclose
      have h2 := toNextValue_length_le hnext
      exact ne_nil_of_length_le (Nat.le_trans h2 h1) hstops
    · rintro (rfl : rest = [])
      cases ht
  · cases o with
    | scalar rest =>
      exact ((carries_closeBrackets brackets rest).any_bind fun p =>
        carries_toNextValue p.1 p.2).of_any
    | bracket bracket rest =>
      dsimp only [behind]
      cases h : skipSpace rest with
      | nil => exact .error
      | cons c left =>
        rw [skipSpace_append_of_eq h]
        exact .ite
          (fun _ => ((carries_closeBrackets brackets left).any_bind fun p =>
            carries_toNextValue p.1 p.2).of_any)
          fun _ => (carries_toNextValue (bracket :: brackets) (c :: left)).of_any

theorem carries_skipParts (brackets : List Bracket) (bs : Bytes) :
    Carries Stops more (skipParts brackets bs) (skipParts brackets (bs ++ more)) := by
  -- along the parts, each of which stops in front of the next
  fun_induction skipParts brackets bs with
  | case1 => exact .error
  | case2 brackets bs rest hpart =>
    rintro _ ⟨⟩ hstops
    rw [skipParts_eq, carries_skipPart brackets bs _ hpart hstops]
    rfl
  | case3 brackets bs bracket outer rest hpart ih =>
    intro r hr hstops
    have hrest := ne_nil_of_length_le (Nat.le_of_lt (skipParts_length_lt hr)) hstops
    rw [skipParts_eq, carries_skipPart brackets bs _ hpart hrest]
    exact ih r hr hstops

end AgeReport.Json
