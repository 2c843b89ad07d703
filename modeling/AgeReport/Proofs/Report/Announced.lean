import AgeReport.Proofs.Report.Texts
import AgeReport.Proofs.Span.Remaining

/-!
# The number announced and the elements written

The array of the entries is announced by the length of the span, which is computed from the bounds
before any entry is. So three computations have to agree whatever the bounds: the length, the
entries that come one after the other, and the elements that are written. An announcement of none
closes the array at once, and elements behind it would stand outside of it. A serializer makes no
other use of the number, so what is announced is stated of all receivers, and shown by one that
notes what it is given.

Results:
* `sendEntries_eq`: any receiver gets one announcement, the elements one by one, and the end.
* `sent_eq`: what a receiver notes.
* `serializeEntries_eq`: the array is announced once and its elements are added one by one.
* `announced_eq_written`: the three computations, and what the elements are.
-/

namespace AgeReport

open Json Json.Serializer

/-! ## A receiver that takes notes -/

/-- What a receiver of a list is given. -/
inductive ListEvent
  /-- The number of elements, if it is known. -/
  | announced (count : Option Nat)
  /-- An element. -/
  | element (e : AgeEntry)
  /-- The end. -/
  | finished
deriving DecidableEq, Repr

/-- Computations that note what they are given. -/
abbrev Noting := StateM (List ListEvent)

instance : ListReceiver Noting Unit where
  announce count := modify (· ++ [.announced count])
  element _ e := modify (· ++ [.element e])
  finish _ := modify (· ++ [.finished])

/-- What a receiver of the entries of a span notes. -/
def YearSpan.sent (s : YearSpan) : List ListEvent :=
  ((s.sendEntries : Noting Unit).run []).2

theorem run_element (es : List AgeEntry) (before : List ListEvent) :
    (es.foldlM ListReceiver.element () : Noting Unit).run before =
      ((), before ++ es.map .element) := by
  induction es generalizing before with
  | nil => simp; rfl
  | cons e es ih =>
    rw [List.foldlM_cons, List.map_cons]
    refine (ih (before ++ [.element e])).trans ?_
    rw [List.append_assoc, List.singleton_append]

/-! ## The announcement and the elements -/

/-- Writes a list: it is announced, its parts are added one by one, and it is finished. -/
def Json.Serializer.listOf {m : Type → Type} [Monad m] [ByteOutput m] (announced : Option Nat)
    (parts : List (Serializer m Unit)) : Serializer m Unit := do
  let p ← start .list announced
  finish .list (← parts.foldlM addPart p)

namespace YearSpan

variable {s : YearSpan}

/-- A receiver is told the length, then given the entries, then the end. -/
theorem sendEntries_eq {m : Type → Type} {π : Type} [Monad m] [ListReceiver m π] (s : YearSpan) :
    (s.sendEntries : m Unit) = (do
      let p ← ListReceiver.announce (some s.length.toNat)
      ListReceiver.finish (← s.entries.foldlM ListReceiver.element p)) := by
  unfold sendEntries
  simp only [foldEntries_eq]

theorem sent_eq (s : YearSpan) :
    s.sent = .announced (some s.length.toNat) :: s.entries.map .element ++ [.finished] := by
  have helements := run_element s.entries [.announced (some s.length.toNat)]
  rw [sent, sendEntries_eq]
  change ((s.entries.foldlM ListReceiver.element () : Noting Unit).run
    [.announced (some s.length.toNat)]).2 ++ [.finished] = _
  rw [helements]
  rfl

theorem serializeEntries_eq {m : Type → Type} [Monad m] [ByteOutput m] (s : YearSpan) :
    (s.serializeEntries : Serializer m Unit) =
      listOf (some s.length.toNat) (s.entries.map AgeEntry.serialize) := by
  rw [serializeEntries, sendEntries_eq, listOf]
  simp only [List.foldlM_map]
  rfl

theorem length_eq_max (s : YearSpan) :
    (s.length.toNat : Int) = max (s.currentYear.toInt - s.birthYear.toInt) 0 := by
  rw [toNat_length]
  omega

/-- The year before the end of the span is the highest, and it has the 32 bits of the end. -/
theorem year_entry_lt {k : Nat} (hk : k < s.length.toNat) : (s.entry k).year < s.currentYear := by
  rw [Int32.lt_iff_toInt_lt, s.toInt_year_entry hk]
  have hlength := s.length_eq_max
  omega

/-- Each year is the successor of the one before, which was not the last that 32 bits hold. -/
theorem year_entry_succ (hk : k + 1 < s.length.toNat) :
    (s.entry (k + 1)).year = (s.entry k).year + 1 ∧ (s.entry k).year < (s.entry (k + 1)).year := by
  refine ⟨add_ofNat_succ s.birthYear k, ?_⟩
  rw [Int32.lt_iff_toInt_lt, s.toInt_year_entry hk, s.toInt_year_entry (Nat.lt_of_succ_lt hk)]
  omega

/-- **The number announced is the number of elements written,** and the number of entries that come
one after the other; it is the difference of the bounds, or zero, without overflow. Every receiver
is told this number first, then given exactly these elements, and then the end. Each element is the
successor of the one before, in words and in integers alike, and none reaches the end of the
span. -/
theorem announced_eq_written (s : YearSpan) :
    let n := s.length.toNat
    let es := (Cursor.ofSpan s).collect
    (s.currentYear.toInt64 - s.birthYear.toInt64).toInt =
      s.currentYear.toInt - s.birthYear.toInt ∧
    (n : Int) = max (s.currentYear.toInt - s.birthYear.toInt) 0 ∧
    n < 4294967296 ∧
    es.length = n ∧
    s.sent = .announced (some n) :: es.map .element ++ [.finished] ∧
    (∀ (m : Type → Type) (π : Type) [Monad m] [ListReceiver m π],
      (s.sendEntries : m Unit) = (do
        let p ← ListReceiver.announce (some n)
        ListReceiver.finish (← es.foldlM ListReceiver.element p))) ∧
    (∀ (m : Type → Type) [Monad m] [ByteOutput m],
      (s.serializeEntries : Serializer m Unit) = listOf (some n) (es.map AgeEntry.serialize)) ∧
    (∀ l : Layout,
      toBytes l s.serializeEntries = l.group .list 0 (es.map (AgeEntry.objectText l 1))) ∧
    ∀ k (hk : k < es.length),
      es[k] = s.entryOf (s.birthYear + Int32.ofNat k) ∧
      es[k].year.toInt = s.birthYear.toInt + k ∧
      es[k].year < s.currentYear ∧
      (∀ hsucc : k + 1 < es.length,
        es[k + 1].year = es[k].year + 1 ∧ es[k].year < es[k + 1].year) ∧
      es[k].age.toInt = k ∧
      es[k].age.toInt = es[k].year.toInt - s.birthYear.toInt ∧
      k < 4294967296 := by
  intro n es
  have hlength : es.length = n := s.length_entries
  have hbound : n < 4294967296 := s.toNat_length_lt
  have hget : ∀ k (hk : k < es.length), es[k] = s.entry k := by
    intro k hk
    have hentries : es = (List.range n).map s.entry := s.entries_eq
    simp [hentries]
  refine ⟨s.toInt_ageOf s.currentYear, s.length_eq_max, hbound, hlength, s.sent_eq, ?_, ?_, ?_, ?_⟩
  · intro m π _ _
    exact s.sendEntries_eq
  · intro m _ _
    exact s.serializeEntries_eq
  · intro l
    exact s.placed_serializeEntries.toBytes
  · intro k hk
    have hkn : k < n := hlength ▸ hk
    rw [hget k hk, s.toInt_year_entry hkn, s.toInt_age_entry hkn]
    refine ⟨rfl, rfl, year_entry_lt hkn, ?_, rfl, by omega, by omega⟩
    intro hsucc
    rw [hget (k + 1) hsucc]
    exact year_entry_succ (by omega)

/-- The number of the widest span is announced first, and the age of its last element does not have
the 32 bits of the years. -/
theorem announced_eq_written_widest :
    let s : YearSpan := ⟨-2147483648, 2147483647⟩
    let es := (Cursor.ofSpan s).collect
    s.length = 4294967295 ∧
    s.sent.head? = some (.announced (some 4294967295)) ∧
    ∃ hlast : 4294967294 < es.length, es[4294967294] = ⟨2147483646, 4294967294⟩ := by
  intro s es
  obtain ⟨-, -, -, hlength, hsent, -, -, -, helement⟩ := announced_eq_written s
  have hn : s.length.toNat = 4294967295 := by decide
  have hlast : 4294967294 < es.length := by
    rw [hlength, hn]
    decide
  have hfirst : s.sent.head? = some (.announced (some 4294967295)) := by
    rw [hsent, hn]
    rfl
  exact ⟨by decide, hfirst, hlast, (helement 4294967294 hlast).1.trans (by decide)⟩

end YearSpan
end AgeReport
