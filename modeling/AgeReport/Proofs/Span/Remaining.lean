import AgeReport.Span.Cursor

/-!
# What remains before a cursor

A cursor holds a year and no list, and it moves by adding to that year. Here each of its operations
is described by the list of the entries that remain: which of them are answered, and which remain
after it. Moves never reach beyond the end of the span, so no year is ever computed that has not
the 32 bits of the bounds.

The rows of a span are its entries in exact integers: the years from the birth year on, numbered
from zero.

Results:
* `map_row_entries`: the entries of a span are its rows.
* `fst_nth`, `toList_nth`: skipping entries and taking the one behind them.
* `fst_next`, `toList_next`: taking the next one.
* `takeSpaced_eq`: entries at equal distances.
* `take_eq`, `takeEvery_succ_eq`, `last_eq`: the operations that are made from these.
-/

namespace AgeReport

/-! ## Rows -/

/-- A year and an age as integers. -/
structure Row where
  year : Int
  age : Int
deriving DecidableEq, Repr

/-- The integers of an entry. -/
def AgeEntry.row (e : AgeEntry) : Row :=
  ⟨e.year.toInt, e.age.toInt⟩

namespace YearSpan

/-- The rows of a span: from the birth year on, one for each year before the end. -/
def rows (s : YearSpan) : List Row :=
  (List.range (max (s.currentYear.toInt - s.birthYear.toInt) 0).toNat).map fun k : Nat =>
    ⟨s.birthYear.toInt + k, k⟩

theorem row_entry (s : YearSpan) {k : Nat} (hk : k < s.length.toNat) :
    (s.entry k).row = ⟨s.birthYear.toInt + k, k⟩ := by
  rw [AgeEntry.row, s.toInt_year_entry hk, s.toInt_age_entry hk]

theorem rows_eq (s : YearSpan) :
    s.rows = (List.range s.length.toNat).map fun k : Nat => ⟨s.birthYear.toInt + k, k⟩ := by
  have hlength : (max (s.currentYear.toInt - s.birthYear.toInt) 0).toNat = s.length.toNat := by
    rw [toNat_length]
    omega
  rw [rows, hlength]

/-- The entries of a span are its rows; no word wraps. -/
theorem map_row_entries (s : YearSpan) : s.entries.map AgeEntry.row = s.rows := by
  rw [entries_eq, rows_eq, List.map_map]
  exact List.map_congr_left fun k hk => s.row_entry (List.mem_range.1 hk)

end YearSpan

namespace Cursor

variable {c : Cursor} {n : Nat}

/-! ## Moving ahead -/

/-- The cursor `n` places ahead. -/
def advance (c : Cursor) (n : Nat) : Cursor :=
  { c with year := c.year + Int32.ofNat n }

theorem length_toList (c : Cursor) : c.toList.length = c.remaining := by
  rw [toList, List.length_map, List.length_range]

theorem getElem?_toList_of_lt (h : n < c.remaining) : c.toList[n]? = some (c.ahead n) := by
  rw [toList, List.getElem?_map, List.getElem?_range h, Option.map_some]

theorem getElem?_toList_of_le (h : c.remaining ≤ n) : c.toList[n]? = none :=
  List.getElem?_eq_none (by rwa [length_toList])

/-- Up to the end of the span, years are added without wrapping. -/
theorem toInt_advance (h : n ≤ c.remaining) :
    (c.advance n).year.toInt = c.year.toInt + n := by
  have hyear := Int32.toInt_lt c.year
  have hend := Int32.toInt_lt c.span.currentYear
  rw [remaining] at h
  exact YearSpan.toInt_add_ofNat (by omega)

theorem ahead_advance (c : Cursor) (n k : Nat) : (c.advance n).ahead k = c.ahead (n + k) := by
  change c.span.entryOf (c.year + Int32.ofNat n + Int32.ofNat k) = c.span.entryOf _
  rw [Int32.ofNat_add, Int32.add_assoc]

theorem remaining_advance (h : n ≤ c.remaining) :
    (c.advance n).remaining = c.remaining - n := by
  have hyear := toInt_advance h
  rw [remaining] at h ⊢
  rw [hyear, remaining, show (c.advance n).span = c.span from rfl]
  omega

/-- Moving ahead leaves the entries behind that were passed. -/
theorem toList_advance (h : n ≤ c.remaining) : (c.advance n).toList = c.toList.drop n := by
  apply List.ext_getElem?
  intro k
  rw [List.getElem?_drop]
  by_cases hk : k < (c.advance n).remaining
  · rw [getElem?_toList_of_lt hk, ahead_advance, getElem?_toList_of_lt]
    rw [remaining_advance h] at hk
    omega
  · rw [getElem?_toList_of_le (Nat.le_of_not_lt hk), getElem?_toList_of_le]
    rw [remaining_advance h] at hk
    omega

theorem toList_drained (c : Cursor) : c.drained.toList = [] :=
  toList_eq_nil c.remaining_drained

/-! ## Skipping and taking one -/

theorem nth_of_lt (h : n < c.remaining) : c.nth n = (some (c.ahead n), c.advance (n + 1)) := by
  rw [nth, if_pos h, advance, add_ofNat_succ]
  rfl

theorem nth_of_le (h : c.remaining ≤ n) : c.nth n = (none, c.drained) := by
  rw [nth, if_neg (Nat.not_lt.2 h)]

/-- What stands behind `n` entries is the answer. -/
theorem fst_nth (c : Cursor) (n : Nat) : (c.nth n).1 = c.toList[n]? := by
  by_cases h : n < c.remaining
  · rw [nth_of_lt h, getElem?_toList_of_lt h]
  · rw [nth_of_le (Nat.le_of_not_lt h), getElem?_toList_of_le (Nat.le_of_not_lt h)]

/-- The skipped entries and the one that was taken do not come again. -/
theorem toList_nth (c : Cursor) (n : Nat) : (c.nth n).2.toList = c.toList.drop (n + 1) := by
  by_cases h : n < c.remaining
  · rw [nth_of_lt h, toList_advance h]
  · rw [nth_of_le (Nat.le_of_not_lt h), toList_drained, List.drop_of_length_le]
    rw [length_toList]
    omega

/-! ## Taking the next one -/

/-- The next entry is the first of those that remain. -/
theorem fst_next (c : Cursor) : c.next.1 = c.toList.head? := by
  rcases Nat.eq_zero_or_pos c.remaining with hzero | hpos
  · rw [next_of_zero hzero, toList_eq_nil hzero, List.head?_nil]
  · rw [next_of_pos hpos, toList_of_pos hpos, List.head?_cons]

/-- Behind it the others remain. -/
theorem toList_next (c : Cursor) : c.next.2.toList = c.toList.tail := by
  rcases Nat.eq_zero_or_pos c.remaining with hzero | hpos
  · rw [next_of_zero hzero, toList_eq_nil hzero, List.tail_nil]
  · rw [next_of_pos hpos, toList_of_pos hpos, List.tail_cons]

/-! ## Taking several -/

/-- With `gap` entries skipped before each, the entries taken stand `gap + 1` places apart. -/
theorem takeSpaced_eq (gap n : Nat) (c : Cursor) :
    (takeSpaced gap n c).1 =
        (List.range n).filterMap (fun i => c.toList[gap + i * (gap + 1)]?) ∧
      (takeSpaced gap n c).2.toList = c.toList.drop (n * (gap + 1)) := by
  induction n generalizing c with
  | zero => simp [takeSpaced]
  | succ n ih =>
    have hanswer := c.fst_nth gap
    have hrest := c.toList_nth gap
    rw [takeSpaced, Nat.add_one_mul]
    cases hnth : c.nth gap with
    | mk e? c' =>
      rw [hnth] at hanswer hrest
      cases e? with
      | none =>
        -- nothing stands behind the gap, so nothing stands further on
        have hshort : c.toList.length ≤ gap := List.getElem?_eq_none_iff.1 hanswer.symm
        refine ⟨?_, ?_⟩
        · rw [eq_comm, List.filterMap_eq_nil_iff]
          intro i _
          exact List.getElem?_eq_none (by omega)
        · rw [hrest, List.drop_of_length_le (by omega), List.drop_of_length_le (by omega)]
      | some e =>
        obtain ⟨hes, hleft⟩ := ih c'
        refine ⟨?_, ?_⟩
        · have hfurther : ∀ i : Nat, c'.toList[gap + i * (gap + 1)]? =
              c.toList[gap + (i + 1) * (gap + 1)]? := by
            intro i
            rw [hrest, List.getElem?_drop, Nat.add_one_mul]
            congr 1
            omega
          rw [List.range_succ_eq_map, List.filterMap_cons, Nat.zero_mul, Nat.add_zero, ← hanswer,
            List.filterMap_map]
          simp only [hes, hfurther]
          rfl
        · rw [hleft, hrest, List.drop_drop]
          congr 1
          omega

theorem filterMap_range_getElem? {α : Type} (L : List α) (n : Nat) :
    (List.range n).filterMap (fun i => L[i]?) = L.take n := by
  induction n with
  | zero => simp
  | succ n ih =>
    rw [List.range_succ, List.filterMap_append, ih, List.take_add_one]
    cases hget : L[n]? <;> simp [hget]

/-- Taking up to `n` entries. -/
theorem take_eq (n : Nat) (c : Cursor) :
    (take n c).1 = c.toList.take n ∧ (take n c).2.toList = c.toList.drop n := by
  obtain ⟨hanswer, hrest⟩ := takeSpaced_eq 0 (min n c.remaining) c
  simp only [Nat.zero_add, Nat.mul_one] at hanswer hrest
  rw [take, hanswer, hrest, filterMap_range_getElem?, ← length_toList]
  refine ⟨?_, ?_⟩
  · rw [← List.take_take, List.take_length]
  · rcases Nat.le_total n c.toList.length with h | h
    · rw [Nat.min_eq_left h]
    · rw [Nat.min_eq_right h, List.drop_length, List.drop_of_length_le h]

/-- Taking up to `n + 1` entries that stand `step` places apart, the next one first. -/
theorem takeEvery_succ_eq {step : Nat} (h : 0 < step) (n : Nat) (c : Cursor) :
    (takeEvery step (n + 1) c).1 =
        (List.range (n + 1)).filterMap (fun i => c.toList[i * step]?) ∧
      (takeEvery step (n + 1) c).2.toList = c.toList.drop (n * step + 1) := by
  obtain ⟨gap, rfl⟩ : ∃ gap, step = gap + 1 := ⟨step - 1, by omega⟩
  have hanswer : c.next.1 = c.toList[0]? := by rw [fst_next, List.head?_eq_getElem?]
  have hrest : c.next.2.toList = c.toList.drop 1 := by rw [toList_next, List.drop_one]
  rw [takeEvery, Nat.add_sub_cancel]
  cases hnext : c.next with
  | mk e? c' =>
    rw [hnext] at hanswer hrest
    cases e? with
    | none =>
      have hnil : c.toList = [] :=
        List.eq_nil_of_length_eq_zero (Nat.le_zero.1 (List.getElem?_eq_none_iff.1 hanswer.symm))
      rw [hnil] at hrest ⊢
      exact ⟨by simp, by simpa using hrest⟩
    | some e =>
      obtain ⟨hes, hleft⟩ := takeSpaced_eq gap n c'
      refine ⟨?_, ?_⟩
      · have hfurther : ∀ i : Nat, c'.toList[gap + i * (gap + 1)]? =
            c.toList[(i + 1) * (gap + 1)]? := by
          intro i
          rw [hrest, List.getElem?_drop, Nat.add_one_mul]
          congr 1
          omega
        rw [List.range_succ_eq_map, List.filterMap_cons, Nat.zero_mul, ← hanswer,
          List.filterMap_map]
        simp only [hes, hfurther]
        rfl
      · rw [hleft, hrest, List.drop_drop]
        congr 1
        omega

/-! ## The last entry -/

theorem last_eq (c : Cursor) : c.last = c.toList.getLast? := by
  rw [last, List.getLast?_eq_getElem?, length_toList]
  split
  · rename_i h
    exact (getElem?_toList_of_le (by omega)).symm
  · rename_i h
    rw [getElem?_toList_of_lt (by omega)]
    -- the year before the end of the span, counted from its end and from the cursor
    have hyear := toInt_advance (c := c) (n := c.remaining - 1) (by omega)
    have hlow := Int32.le_toInt c.year
    have hend := Int32.toInt_lt c.span.currentYear
    have hbefore : (c.span.currentYear - 1).toInt = c.span.currentYear.toInt - 1 := by
      rw [remaining] at h
      rw [Int32.toInt_sub, Int32.toInt_one]
      apply Int.bmod_eq_of_le <;> omega
    have hsame : c.span.currentYear - 1 = (c.advance (c.remaining - 1)).year := by
      apply Int32.toInt.inj
      rw [hbefore, hyear, remaining] at *
      omega
    rw [hsame]
    rfl

end Cursor
end AgeReport
