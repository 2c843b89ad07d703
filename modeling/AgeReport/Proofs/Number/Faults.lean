import AgeReport.Proofs.Number.Numerals

/-!
# Why a text is no numeral

The fault of a text is that of its first position with one. A position has a fault of its own, which
nothing behind it has a part in: no digit stands there, or the digits up to it have a value outside
the bounds. Where no digit stands the value does not matter.

Results:
* `accumulate_step`: what reading one position comes to.
* `accumulate_eq_error_iff`: reading on from any position.
* `read_eq_error_iff`: the fault of a whole text.
-/

namespace AgeReport.Numeral

open Decimal

/-- The fault at a position of digits that are read from left to right. -/
def faultAt (b : Bounds) (negative : Bool) (ds : List Char) (n : Nat) : Option NumeralFault :=
  match ds[n]? with
  | none => none
  | some c =>
    if (digit? c).isNone then some .invalidDigit
    else if b.contains (signed negative (valueFrom 0 (ds.take (n + 1)))) then none
    else some (if negative then .tooSmall else .tooLarge)

/-- The fault at the first position that has one. -/
def FirstFault (b : Bounds) (negative : Bool) (ds : List Char) (f : NumeralFault) : Prop :=
  ∃ n, faultAt b negative ds n = some f ∧ ∀ m < n, faultAt b negative ds m = none

/-- Why a text is no numeral within the bounds. -/
inductive Faulty (b : Bounds) : List Char → NumeralFault → Prop
  | empty : Faulty b [] .empty
  | sign {c : Char} (h : c = '+' ∨ c = '-') : Faulty b [c] .invalidDigit
  | plain {c : Char} {ds : List Char} {f : NumeralFault} (hc : c ≠ '+' ∧ c ≠ '-')
    (h : FirstFault b false (c :: ds) f) : Faulty b (c :: ds) f
  | plus {ds : List Char} {f : NumeralFault} (h : FirstFault b false ds f) : Faulty b ('+' :: ds) f
  | minus {ds : List Char} {f : NumeralFault} (h : FirstFault b true ds f) : Faulty b ('-' :: ds) f

variable {b : Bounds} {negative : Bool} {m n : Nat} {c : Char} {cs ds : List Char}
  {f : NumeralFault}

/-! ## One position -/

theorem faultAt_of_le (h : ds.length ≤ n) : faultAt b negative ds n = none := by
  simp only [faultAt, List.getElem?_eq_none h]

/-- A value that leaves the bounds leaves them on the side of its sign. -/
theorem accumulate_of_not_contains (hb : b.contains 0 = true) {d : Nat} (hd : digit? c = some d)
    (hw : b.contains (signed negative (m * 10 + d)) = false) (cs : List Char) :
    accumulate b negative (signed negative m) (c :: cs) =
      .error (if negative then .tooSmall else .tooLarge) := by
  have hout : ¬ (b.least ≤ signed negative (m * 10 + d) ∧
      signed negative (m * 10 + d) ≤ b.greatest) := by
    rw [← Bounds.contains_iff, hw]
    exact Bool.false_ne_true
  rw [Bounds.contains_iff] at hb
  rw [accumulate, hd]
  dsimp only
  rw [append_signed]
  cases negative with
  | false =>
    simp only [signed, Bool.false_eq_true, ↓reduceIte] at hout ⊢
    rw [if_neg (by omega), if_pos (by omega)]
  | true =>
    simp only [signed, ↓reduceIte] at hout ⊢
    rw [if_pos (by omega)]

/-- Behind the digits before a position, its fault ends the reading, or it is read on behind it. -/
theorem accumulate_step (hb : b.contains 0 = true) (hn : n < ds.length) :
    accumulate b negative (signed negative (valueFrom 0 (ds.take n))) (ds.drop n) =
      match faultAt b negative ds n with
      | some f => .error f
      | none =>
        accumulate b negative (signed negative (valueFrom 0 (ds.take (n + 1)))) (ds.drop (n + 1)) := by
  have hget : ds[n]? = some ds[n] := List.getElem?_eq_getElem hn
  rw [List.drop_eq_getElem_cons hn]
  simp only [faultAt, hget]
  cases hd : digit? ds[n] with
  | none => simp [accumulate, hd]
  | some d =>
    have hvalue : valueFrom 0 (ds.take (n + 1)) = valueFrom 0 (ds.take n) * 10 + d := by
      rw [List.take_add_one, hget, Option.toList_some, valueFrom_append, valueFrom_cons,
        ← (digit?_eq_some hd).1]
      rfl
    rw [hvalue]
    cases hw : b.contains (signed negative (valueFrom 0 (ds.take n) * 10 + d)) with
    | true =>
      rw [accumulate_cons hd (by rwa [append_signed]), append_signed]
      rfl
    | false =>
      rw [accumulate_of_not_contains hb hd hw]
      rfl

/-- A position never has the fault of the empty text. -/
theorem faultAt_ne_empty : faultAt b negative ds n ≠ some .empty := by
  intro h
  unfold faultAt at h
  split at h
  · cases h
  split at h
  · cases h
  split at h
  · cases h
  · cases negative <;> cases h

/-! ## All positions -/

/-- Reading on from a position ends with the fault of the first position from there on that has
one. -/
theorem accumulate_eq_error_iff (hb : b.contains 0 = true) :
    accumulate b negative (signed negative (valueFrom 0 (ds.take n))) (ds.drop n) = .error f ↔
      ∃ k, n ≤ k ∧ faultAt b negative ds k = some f ∧
        ∀ m, n ≤ m → m < k → faultAt b negative ds m = none := by
  induction hleft : ds.length - n generalizing n with
  | zero =>
    rw [List.drop_eq_nil_of_le (by omega), accumulate_nil]
    constructor
    · rintro ⟨⟩
    · rintro ⟨k, hk, hfault, -⟩
      rw [faultAt_of_le (by omega)] at hfault
      cases hfault
  | succ left ih =>
    rw [accumulate_step hb (by omega)]
    cases hfault : faultAt b negative ds n with
    | some f' =>
      constructor
      · rintro ⟨⟩
        exact ⟨n, Nat.le_refl n, hfault, fun m hnm hmn => by omega⟩
      · rintro ⟨k, hk, hkf, hbefore⟩
        -- no position comes before this one
        obtain rfl : k = n := by
          refine Nat.le_antisymm (Nat.le_of_not_lt fun hlt => ?_) hk
          rw [hbefore n (Nat.le_refl n) hlt] at hfault
          cases hfault
        rw [hfault] at hkf
        rw [Option.some.inj hkf]
    | none =>
      refine (ih (by omega)).trans ?_
      constructor
      · rintro ⟨k, hk, hkf, hbefore⟩
        refine ⟨k, by omega, hkf, ?_⟩
        intro m hnm hmk
        rcases Nat.eq_or_lt_of_le hnm with rfl | hlt
        · exact hfault
        · exact hbefore m hlt hmk
      · rintro ⟨k, hk, hkf, hbefore⟩
        have hne : n ≠ k := by
          rintro rfl
          rw [hfault] at hkf
          cases hkf
        exact ⟨k, by omega, hkf, fun m hm => hbefore m (by omega)⟩

/-! ## Whole texts -/

theorem readDigits_eq_error_iff (hb : b.contains 0 = true) (hne : ds ≠ []) :
    readDigits b negative ds = .error f ↔ FirstFault b negative ds f := by
  have hzero : signed negative 0 = 0 := by cases negative <;> rfl
  have hstart : accumulate b negative (signed negative (valueFrom 0 (ds.take 0))) (ds.drop 0) =
      .error f ↔ _ := accumulate_eq_error_iff hb
  rw [List.take_zero, List.drop_zero, valueFrom, List.foldl_nil, hzero] at hstart
  rw [readDigits, if_neg hne, hstart]
  simp [FirstFault]

/-- The digits behind a sign: there has to be one. -/
theorem readDigits_sign_eq_error_iff (hb : b.contains 0 = true) :
    readDigits b negative ds = .error f ↔
      ds = [] ∧ f = .invalidDigit ∨ FirstFault b negative ds f := by
  by_cases hne : ds = []
  · subst hne
    constructor
    · rintro ⟨⟩
      exact .inl ⟨rfl, rfl⟩
    · rintro (⟨-, rfl⟩ | ⟨n, hn, -⟩)
      · rfl
      · rw [faultAt_of_le (Nat.zero_le n)] at hn
        cases hn
  · rw [readDigits_eq_error_iff hb hne]
    simp [hne]

/-- Reading fails exactly with the faults that a text has, none for numerals within the bounds. -/
theorem read_eq_error_iff (hb : b.contains 0 = true) : read b cs = .error f ↔ Faulty b cs f := by
  constructor
  · intro h
    cases cs with
    | nil =>
      cases h
      exact .empty
    | cons c cs =>
      rw [read] at h
      split at h
      · rename_i hc
        subst hc
        rcases (readDigits_sign_eq_error_iff hb).1 h with ⟨rfl, rfl⟩ | hfirst
        · exact .sign (.inl rfl)
        · exact .plus hfirst
      split at h
      · rename_i hc
        subst hc
        rcases (readDigits_sign_eq_error_iff hb).1 h with ⟨rfl, rfl⟩ | hfirst
        · exact .sign (.inr rfl)
        · exact .minus hfirst
      · rename_i hplus hminus
        exact .plain ⟨hplus, hminus⟩ ((readDigits_eq_error_iff hb (by simp)).1 h)
  · intro h
    cases h with
    | empty => rfl
    | sign h => rcases h with rfl | rfl <;> rfl
    | plain hc h =>
      rw [read, if_neg hc.1, if_neg hc.2]
      exact (readDigits_eq_error_iff hb (by simp)).2 h
    | plus h => exact (readDigits_sign_eq_error_iff hb).2 (.inr h)
    | minus h => exact (readDigits_sign_eq_error_iff hb).2 (.inr h)

/-- Only the empty text has the fault of being empty. -/
theorem Faulty.eq_empty_iff (h : Faulty b cs f) : f = .empty ↔ cs = [] := by
  have hfirst : ∀ {negative ds}, FirstFault b negative ds f → f ≠ .empty := by
    rintro negative ds ⟨n, hn, -⟩ rfl
    exact faultAt_ne_empty hn
  cases h with
  | empty => simp
  | sign => simp
  | plain _ h => simp [hfirst h]
  | plus h => simp [hfirst h]
  | minus h => simp [hfirst h]

end AgeReport.Numeral
