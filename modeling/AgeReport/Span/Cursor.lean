import AgeReport.Span.Basic

/-!
# Walking along a span

A cursor stands before the next entry of a span. It gives entries as long as its year is below the
end of the span, one by one, by skipping, or all at once. The entries of a span are what a new
cursor gives until it gives nothing; nobody counts them on the way, so that there are as many as
the bounds say is a lemma. The view of a cursor is `toList`, the entries that remain, counted.

* `collect_eq`: what a cursor gives until it gives nothing is its view;
* `entries_eq`, `length_entries`: the entries of a span are those below its length;
* `foldEntries_eq`: going through the entries is going through their list;
* `toList_eq_nil`: a cursor at the end has none, whatever the bounds.
-/

namespace AgeReport

/-- A place in a span: before the entry of `year`. It is the iterator that `entries` answers, a range
of years that is half open. -/
structure Cursor where
  span : YearSpan
  year : Int32
deriving DecidableEq, Repr

namespace Cursor

/-! ## One entry after the other -/

/-- The cursor before the first entry. -/
def ofSpan (s : YearSpan) : Cursor :=
  ⟨s, s.birthYear⟩

/-- Takes the next entry (`next`), unless the year has come to the end of the span. -/
def next (c : Cursor) : Option AgeEntry × Cursor :=
  if c.year < c.span.currentYear then (some (c.span.entryOf c.year), { c with year := c.year + 1 })
  else (none, c)

/-- The number of entries that remain. -/
def remaining (c : Cursor) : Nat :=
  (c.span.currentYear.toInt - c.year.toInt).toNat

theorem year_lt_iff {c : Cursor} : c.year < c.span.currentYear ↔ 0 < c.remaining := by
  rw [Int32.lt_iff_toInt_lt, remaining]
  omega

theorem next_of_pos {c : Cursor} (h : 0 < c.remaining) :
    c.next = (some (c.span.entryOf c.year), { c with year := c.year + 1 }) := by
  rw [next, if_pos (year_lt_iff.2 h)]

theorem next_of_zero {c : Cursor} (h : c.remaining = 0) : c.next = (none, c) := by
  rw [next, if_neg (mt year_lt_iff.1 (by omega))]

/-- Below the end of the span the next year has the 32 bits of the end. -/
theorem remaining_succ {c : Cursor} (h : 0 < c.remaining) :
    ({ c with year := c.year + 1 } : Cursor).remaining + 1 = c.remaining := by
  have hend := Int32.toInt_lt c.span.currentYear
  have hlt : c.year.toInt < c.span.currentYear.toInt :=
    Int32.lt_iff_toInt_lt.1 (year_lt_iff.2 h)
  have hyear : (c.year + 1).toInt = c.year.toInt + 1 :=
    YearSpan.toInt_add_ofNat (k := 1) (by omega)
  simp only [remaining, hyear]
  omega

theorem remaining_of_next_none {c c' : Cursor} (h : c.next = (none, c')) : c.remaining = 0 := by
  refine Nat.eq_zero_of_not_pos fun hpos => ?_
  rw [next_of_pos hpos] at h
  cases h

/-- Only before the end of the span an entry is taken, and the year moves on behind it. -/
theorem of_next_some {c c' : Cursor} {e : AgeEntry} (h : c.next = (some e, c')) :
    0 < c.remaining ∧ e = c.span.entryOf c.year ∧ c' = { c with year := c.year + 1 } := by
  rcases Nat.eq_zero_or_pos c.remaining with hzero | hpos
  · rw [next_of_zero hzero] at h
    cases h
  · rw [next_of_pos hpos] at h
    cases h
    exact ⟨hpos, rfl, rfl⟩

/-- An entry that was taken remains no longer. -/
theorem remaining_next {c c' : Cursor} {e : AgeEntry} (h : c.next = (some e, c')) :
    c'.remaining < c.remaining := by
  obtain ⟨hpos, -, rfl⟩ := of_next_some h
  have hsucc := remaining_succ hpos
  omega

/-- The entries that come one after the other, until none comes. -/
def collect (c : Cursor) : List AgeEntry :=
  match _h : c.next with
  | (none, _) => []
  | (some e, c') => e :: collect c'
termination_by c.remaining
decreasing_by exact remaining_next _h

section Fold

variable {m : Type → Type} [Monad m] {β : Type}

/-- Does something with each entry that comes, until none comes. -/
def foldM (f : β → AgeEntry → m β) (c : Cursor) (b : β) : m β :=
  match _h : c.next with
  | (none, _) => pure b
  | (some e, c') => do foldM f c' (← f b e)
termination_by c.remaining
decreasing_by exact remaining_next _h

end Fold

/-! ## Skipping -/

/-- The cursor behind all entries. -/
def drained (c : Cursor) : Cursor :=
  { c with year := c.span.currentYear }

/-- Skips `n` entries and takes the one behind them (`nth`); if there are not so many, nothing
remains. -/
def nth (c : Cursor) (n : Nat) : Option AgeEntry × Cursor :=
  if n < c.remaining then
    let year := c.year + Int32.ofNat n
    (some (c.span.entryOf year), { c with year := year + 1 })
  else (none, c.drained)

/-- Takes entries, after the first skipping `gap` entries before each, at most `n` of them and
ending with the first that is missing. -/
def takeSpaced (gap : Nat) : Nat → Cursor → List AgeEntry × Cursor
  | 0, c => ([], c)
  | n + 1, c =>
    match c.nth gap with
    | (none, c') => ([], c')
    | (some e, c') =>
      let (es, c'') := takeSpaced gap n c'
      (e :: es, c'')

/-- Takes up to `n` entries (`take`). -/
def take (n : Nat) (c : Cursor) : List AgeEntry × Cursor :=
  takeSpaced 0 (min n c.remaining) c

/-- Takes the next entry and then each that stands `step` places behind the one before, at most
`n` entries in all (`step_by`). -/
def takeEvery (step : Nat) : Nat → Cursor → List AgeEntry × Cursor
  | 0, c => ([], c)
  | n + 1, c =>
    match c.next with
    | (none, c') => ([], c')
    | (some e, c') =>
      let (es, c'') := takeSpaced (step - 1) n c'
      (e :: es, c'')

/-! ## All at once -/

/-- The last entry (`last`). -/
def last (c : Cursor) : Option AgeEntry :=
  if c.remaining = 0 then none else some (c.span.entryOf (c.span.currentYear - 1))

/-- Adds the ages of `n` entries, from the one of `year` on, to a total, in 64-bit words. -/
def addAges (s : YearSpan) : Nat → Int32 → Int64 → Int64
  | 0, _, total => total
  | n + 1, year, total => addAges s n (year + 1) (total + (s.entryOf year).age)

/-- The sum of the ages of the entries that remain, in 64-bit words. -/
def ageSum (c : Cursor) : Int64 :=
  addAges c.span c.remaining c.year 0

/-! ## The view -/

/-- The entry `k` places ahead. -/
def ahead (c : Cursor) (k : Nat) : AgeEntry :=
  c.span.entryOf (c.year + Int32.ofNat k)

/-- The entries that remain. -/
def toList (c : Cursor) : List AgeEntry :=
  (List.range c.remaining).map c.ahead

theorem remaining_drained (c : Cursor) : c.drained.remaining = 0 := by
  simp [remaining, drained]

theorem toList_eq_nil {c : Cursor} (h : c.remaining = 0) : c.toList = [] := by
  simp [toList, h]

theorem toList_of_pos {c : Cursor} (h : 0 < c.remaining) :
    c.toList = c.span.entryOf c.year :: ({ c with year := c.year + 1 } : Cursor).toList := by
  have hfirst : c.ahead 0 = c.span.entryOf c.year := congrArg c.span.entryOf (Int32.add_zero c.year)
  have hrest : ({ c with year := c.year + 1 } : Cursor).ahead = fun k => c.ahead (k + 1) :=
    funext fun k => congrArg c.span.entryOf (succ_add_ofNat c.year k)
  rw [toList, toList, hrest, ← remaining_succ h, List.range_succ_eq_map, List.map_cons,
    List.map_map, hfirst]
  rfl

theorem collect_of_none {c c' : Cursor} (h : c.next = (none, c')) : c.collect = [] := by
  rw [collect]
  split
  · rfl
  · simp_all

theorem collect_of_some {c c' : Cursor} {e : AgeEntry} (h : c.next = (some e, c')) :
    c.collect = e :: c'.collect := by
  rw [collect]
  split
  · simp_all
  · simp_all

/-- What comes one after the other is what remains. -/
theorem collect_eq (c : Cursor) : c.collect = c.toList := by
  induction c using collect.induct with
  | case1 c c' hnext =>
    rw [collect_of_none hnext, toList_eq_nil (remaining_of_next_none hnext)]
  | case2 c e c' hnext ih =>
    rw [collect_of_some hnext, ih]
    obtain ⟨hpos, rfl, rfl⟩ := of_next_some hnext
    exact (toList_of_pos hpos).symm

section Fold

variable {m : Type → Type} [Monad m] {β : Type} {f : β → AgeEntry → m β} {b : β} {c c' : Cursor}

theorem foldM_of_none (h : c.next = (none, c')) : c.foldM f b = pure b := by
  rw [foldM]
  split
  · rfl
  · simp_all

theorem foldM_of_some {e : AgeEntry} (h : c.next = (some e, c')) :
    c.foldM f b = f b e >>= c'.foldM f := by
  rw [foldM]
  split
  · simp_all
  · simp_all

/-- Doing something with each entry that comes is doing it with each of their list. -/
theorem foldM_eq (f : β → AgeEntry → m β) (c : Cursor) (b : β) :
    c.foldM f b = c.collect.foldlM f b := by
  induction c using collect.induct generalizing b with
  | case1 c c' hnext => rw [foldM_of_none hnext, collect_of_none hnext, List.foldlM_nil]
  | case2 c e c' hnext ih =>
    rw [foldM_of_some hnext, collect_of_some hnext, List.foldlM_cons]
    exact congrArg (f b e >>= ·) (funext ih)

end Fold

end Cursor

namespace YearSpan

/-- The entries, one a year, in ascending order (`entries`). -/
def entries (s : YearSpan) : List AgeEntry :=
  (Cursor.ofSpan s).collect

/-- Goes through the entries, one at a time. -/
def foldEntries {m : Type → Type} [Monad m] {β : Type} (s : YearSpan) (f : β → AgeEntry → m β)
    (b : β) : m β :=
  (Cursor.ofSpan s).foldM f b

theorem foldEntries_eq {m : Type → Type} [Monad m] {β : Type} (s : YearSpan)
    (f : β → AgeEntry → m β) (b : β) : s.foldEntries f b = s.entries.foldlM f b :=
  (Cursor.ofSpan s).foldM_eq f b

end YearSpan

namespace Cursor

theorem remaining_ofSpan (s : YearSpan) : (ofSpan s).remaining = s.length.toNat :=
  s.toNat_length.symm

theorem toList_ofSpan (s : YearSpan) : (ofSpan s).toList = s.entries :=
  (ofSpan s).collect_eq.symm

end Cursor

namespace YearSpan

/-- The entries are those below the length. -/
theorem entries_eq (s : YearSpan) : s.entries = (List.range s.length.toNat).map s.entry := by
  rw [← Cursor.toList_ofSpan, Cursor.toList, Cursor.remaining_ofSpan]
  rfl

theorem length_entries (s : YearSpan) : s.entries.length = s.length.toNat := by
  rw [entries_eq, List.length_map, List.length_range]

end YearSpan
end AgeReport
