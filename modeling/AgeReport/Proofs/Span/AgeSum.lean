import AgeReport.Proofs.Span.Remaining
import Mathlib.Algebra.Order.BigOperators.Group.List
import Mathlib.Algebra.Order.Group.Int
import Mathlib.Tactic.Ring

/-!
# The sum of the ages

Ages are added in 64-bit words, one after the other. The ages of a span are the numbers below its
length, so whatever part of them is added, in whatever portions, the sum stays below that of the
widest span, which still has 63 bits; no addition wraps.

Results:
* `ageSum_eq`: the sum is one of the entries that remain.
* `checkedTotal_eq`: adding ages that are not negative, as long as the result has 63 bits.
* `two_mul_sum_ages`: the sum of all ages of a span, doubled.
* `toInt_totalAge_of_sublist`: any part of the entries of a span.
* `ages_add_up`: the entries from any place in a span on, as many as one likes, with every addition
  checked, and the sum in closed form.
-/

namespace AgeReport

/-- Adds the ages of entries to a total, in order, in 64-bit words. -/
def totalAge (total : Int64) (es : List AgeEntry) : Int64 :=
  es.foldl (fun total e => total + e.age) total

/-- The ages of entries as integers. -/
def ages (es : List AgeEntry) : List Int :=
  es.map fun e => e.age.toInt

theorem Cursor.addAges_eq (s : YearSpan) (n : Nat) (year : Int32) (total : Int64) :
    addAges s n year total =
      totalAge total ((List.range n).map fun k => s.entryOf (year + Int32.ofNat k)) := by
  induction n generalizing year total with
  | zero => rfl
  | succ n ih =>
    have hfirst : year + Int32.ofNat 0 = year := Int32.add_zero year
    rw [addAges, ih, List.range_succ_eq_map, List.map_cons, List.map_map, hfirst]
    simp only [succ_add_ofNat]
    rfl

/-- The sum is one of the entries that remain. -/
theorem Cursor.ageSum_eq (c : Cursor) : c.ageSum = totalAge 0 c.toList :=
  addAges_eq c.span c.remaining c.year 0

/-! ## Adding without wrapping -/

/-- Adds the ages of entries to a total, in order, unless a sum on the way has not 64 bits. -/
def checkedTotal (total : Int64) (es : List AgeEntry) : Option Int64 :=
  es.foldlM
    (fun total e =>
      let sum := total.toInt + e.age.toInt
      if -2 ^ 63 ≤ sum ∧ sum < 2 ^ 63 then some (total + e.age) else none)
    total

theorem toInt_add_age {total : Int64} {e : AgeEntry} (hlow : -2 ^ 63 ≤ total.toInt + e.age.toInt)
    (hhigh : total.toInt + e.age.toInt < 2 ^ 63) :
    (total + e.age).toInt = total.toInt + e.age.toInt := by
  rw [Int64.toInt_add]
  apply Int.bmod_eq_of_le <;> omega

/-- Ages that are not negative pass every check and are added exactly if the result has 63 bits, for
then all the sums on the way have. -/
theorem checkedTotal_eq {es : List AgeEntry} {total : Int64} (hes : ∀ a ∈ ages es, 0 ≤ a)
    (htotal : 0 ≤ total.toInt) (hfits : total.toInt + (ages es).sum < 2 ^ 63) :
    checkedTotal total es = some (totalAge total es) ∧
      (totalAge total es).toInt = total.toInt + (ages es).sum := by
  induction es generalizing total with
  | nil => exact ⟨rfl, (Int.add_zero _).symm⟩
  | cons e es ih =>
    have hsum : (ages (e :: es)).sum = e.age.toInt + (ages es).sum := List.sum_cons
    have he : 0 ≤ e.age.toInt := hes _ List.mem_cons_self
    have hrest : ∀ a ∈ ages es, 0 ≤ a := fun a ha => hes a (List.mem_cons_of_mem _ ha)
    have hnonneg : 0 ≤ (ages es).sum := List.sum_nonneg hrest
    have hadd : (total + e.age).toInt = total.toInt + e.age.toInt :=
      toInt_add_age (by omega) (by omega)
    have hstep : checkedTotal total (e :: es) = checkedTotal (total + e.age) es := by
      rw [checkedTotal, List.foldlM_cons]
      dsimp only
      rw [if_pos ⟨by omega, by omega⟩]
      rfl
    have hnext : 0 ≤ (total + e.age).toInt := by omega
    obtain ⟨hchecked, hexact⟩ := ih hrest hnext (by omega)
    constructor
    · rw [hstep, hchecked]
      rfl
    · calc (totalAge total (e :: es)).toInt
        _ = (totalAge (total + e.age) es).toInt := rfl
        _ = (total + e.age).toInt + (ages es).sum := hexact
        _ = total.toInt + (ages (e :: es)).sum := by omega

/-! ## The ages of a span -/

namespace YearSpan

variable {s : YearSpan} {es : List AgeEntry}

/-- The ages of a span are the numbers below its length. -/
theorem ages_entries (s : YearSpan) :
    ages s.entries = (List.range s.length.toNat).map fun k : Nat => (k : Int) := by
  rw [ages, entries_eq, List.map_map]
  exact List.map_congr_left fun k hk => s.toInt_age_entry (List.mem_range.1 hk)

theorem two_mul_sum_range' (start n : Nat) :
    2 * ((List.range' start n).map fun k : Nat => (k : Int)).sum = n * (2 * start + n - 1) := by
  induction n with
  | zero => simp
  | succ n ih =>
    rw [List.range'_concat, List.map_append, List.sum_append, mul_add, ih, List.map_singleton,
      List.sum_singleton]
    push_cast
    ring

/-- The sum of the ages of entries that stand together, doubled. -/
theorem two_mul_sum_ages_drop_take (s : YearSpan) (start n : Nat) :
    let part := (s.entries.drop start).take n
    2 * (ages part).sum = part.length * (2 * start + part.length - 1) := by
  intro part
  have hlength : part.length = min n (s.length.toNat - start) := by
    simp [part, length_entries]
  have hages : ages part =
      (List.range' start part.length).map fun k : Nat => (k : Int) := by
    rw [ages, List.map_take, List.map_drop]
    change ((ages s.entries).drop start).take n = _
    rw [ages_entries, ← List.map_drop, ← List.map_take, List.range_eq_range', List.drop_range',
      List.range'_eq_map_range, ← List.map_take, List.take_range, hlength, ← List.range'_eq_map_range]
    simp
  rw [hages, two_mul_sum_range']

/-- The sum of all ages of a span, doubled. -/
theorem two_mul_sum_ages (s : YearSpan) :
    2 * (ages s.entries).sum = s.length.toNat * (s.length.toNat - 1) := by
  rw [ages_entries, List.range_eq_range', two_mul_sum_range']
  simp

/-- The widest span has the greatest sum, and that has 63 bits. -/
theorem sum_ages_lt (s : YearSpan) : (ages s.entries).sum < 2 ^ 63 := by
  have hn := s.toNat_length_lt
  have hdouble := s.two_mul_sum_ages
  have hle : (s.length.toNat : Int) * (s.length.toNat - 1) ≤ 4294967295 * 4294967294 := by
    rcases Nat.eq_zero_or_pos s.length.toNat with h | h
    · rw [h]
      decide
    · exact Int.mul_le_mul (by omega) (by omega) (by omega) (by omega)
  omega

theorem ages_entries_nonneg (s : YearSpan) : ∀ a ∈ ages s.entries, 0 ≤ a := by
  intro a ha
  rw [ages_entries] at ha
  obtain ⟨k, -, rfl⟩ := List.mem_map.1 ha
  exact Int.natCast_nonneg k

/-- Whichever entries of a span are left out, the ages of the others are within bounds. -/
theorem ages_of_sublist (h : es.Sublist s.entries) :
    (∀ a ∈ ages es, 0 ≤ a) ∧ (ages es).sum < 2 ^ 63 := by
  have hsub : (ages es).Sublist (ages s.entries) := h.map _
  refine ⟨fun a ha => s.ages_entries_nonneg a (hsub.subset ha), ?_⟩
  exact Int.lt_of_le_of_lt (hsub.sum_le_sum s.ages_entries_nonneg) s.sum_ages_lt

theorem checkedTotal_of_sublist (h : es.Sublist s.entries) :
    checkedTotal 0 es = some (totalAge 0 es) ∧ (totalAge 0 es).toInt = (ages es).sum := by
  obtain ⟨hnonneg, hlt⟩ := ages_of_sublist h
  have hzero : (0 : Int64).toInt = 0 := rfl
  obtain ⟨hchecked, hexact⟩ := checkedTotal_eq hnonneg hzero.ge (by omega)
  exact ⟨hchecked, by rw [hexact, hzero, Int.zero_add]⟩

/-- Whichever entries of a span are left out, the sum of the others is exact. -/
theorem toInt_totalAge_of_sublist (h : es.Sublist s.entries) :
    (totalAge 0 es).toInt = (ages es).sum :=
  (checkedTotal_of_sublist h).2

/-- **Ages add up.** From any place in a span on, and however many entries are taken there, no
addition leaves the 64 bits, so the sum in words is that in integers. It is known in closed form;
that of a whole span is the one of the numbers below its length. -/
theorem ages_add_up (s : YearSpan) (start n : Nat) :
    let c := (Cursor.take start (Cursor.ofSpan s)).2
    let part := (Cursor.take n c).1
    part = (s.entries.drop start).take n ∧
      checkedTotal 0 part = some (totalAge 0 part) ∧
      (totalAge 0 part).toInt = (ages part).sum ∧
      0 ≤ (ages part).sum ∧ (ages part).sum < 2 ^ 63 ∧
      2 * (ages part).sum = part.length * (2 * start + part.length - 1) ∧
      c.ageSum.toInt = (ages (s.entries.drop start)).sum ∧
      (Cursor.ofSpan s).ageSum.toInt = s.length.toNat * (s.length.toNat - 1) / 2 := by
  intro c part
  have hrest : c.toList = s.entries.drop start := by
    rw [show c.toList = _ from (Cursor.take_eq start _).2, Cursor.toList_ofSpan]
  have hpart : part = (s.entries.drop start).take n := by
    rw [← hrest]
    exact (Cursor.take_eq n c).1
  have hsub : part.Sublist s.entries := by
    rw [hpart]
    exact (List.take_sublist _ _).trans (List.drop_sublist _ _)
  obtain ⟨hnonneg, hlt⟩ := ages_of_sublist hsub
  obtain ⟨hchecked, hexact⟩ := checkedTotal_of_sublist hsub
  refine ⟨hpart, hchecked, hexact, List.sum_nonneg hnonneg, hlt, ?_, ?_, ?_⟩
  · rw [hpart]
    exact s.two_mul_sum_ages_drop_take start n
  · rw [c.ageSum_eq, hrest, toInt_totalAge_of_sublist (List.drop_sublist _ _)]
  · have hdouble := s.two_mul_sum_ages
    rw [Cursor.ageSum_eq, Cursor.toList_ofSpan, toInt_totalAge_of_sublist (.refl _)]
    omega

/-- The widest span, of which every entry is added, and whose sum is the greatest there is. -/
theorem ages_add_up_widest :
    let s : YearSpan := ⟨Int32.minValue, Int32.maxValue⟩
    let all := (Cursor.take s.length.toNat (Cursor.ofSpan s)).1
    s.length.toNat = 4294967295 ∧
      checkedTotal 0 all = some (totalAge 0 all) ∧
      (Cursor.ofSpan s).ageSum.toInt = 2 ^ 63 - 2 ^ 32 - 2 ^ 31 + 1 := by
  intro s all
  have hlength : s.length.toNat = 4294967295 := by decide
  obtain ⟨-, hchecked, -, -, -, -, -, hsum⟩ := s.ages_add_up 0 s.length.toNat
  refine ⟨hlength, hchecked, ?_⟩
  rw [hsum, hlength]
  decide

end YearSpan
end AgeReport
