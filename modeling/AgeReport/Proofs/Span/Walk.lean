import AgeReport.Proofs.Span.AgeSum

/-!
# A cursor against a list

A walk along a span is any sequence of steps on one cursor: single entries, entries behind others,
several at once, questions about what remains, and steps that use all of it up. A list of entries
that gets shorter answers the same steps. Every step of a cursor is the step of the list of what
remains before it, so this holds of whole walks.

What a list answers, and what it has left, are parts of it in their order. So no walk sees an entry
twice or out of order, or one that is not of the span, and a walk that passes none loses none.

Results:
* `step_eq`, `run_eq`: one step, and a whole walk.
* `parts_onList`, `parts_run`: what is answered and what is left, of a list.
* `walk_agrees_list`: the same for a walk from the beginning of a span.
-/

namespace AgeReport.Cursor

/-! ## Steps and their answers -/

/-- A step of a walk. -/
inductive Step
  /-- The next entry. -/
  | next
  /-- The entry behind `n` others. -/
  | nth (n : Nat)
  /-- The next `n` entries. -/
  | take (n : Nat)
  /-- The next entry and two more, each `n` places behind the one before. -/
  | every (n : Nat) (pos : 0 < n)
  /-- How many entries remain, at least and at most. -/
  | sizeHint
  /-- The number of all entries that remain. -/
  | count
  /-- The last of all entries that remain. -/
  | last
  /-- The sum of the ages of all entries that remain. -/
  | ageSum
deriving DecidableEq, Repr

/-- What a step answers. -/
inductive Answer
  | entry (e? : Option AgeEntry)
  | entries (es : List AgeEntry)
  | bounds (lower : Nat) (upper : Option Nat)
  | number (n : Int)
deriving DecidableEq, Repr

namespace Answer

/-- The entries of an answer. -/
def toList : Answer → List AgeEntry
  | entry e? => e?.toList
  | entries es => es
  | bounds _ _ => []
  | number _ => []

/-- The answer is no entry, no entries or zero. -/
def IsVoid : Answer → Prop
  | entry e? => e? = none
  | entries es => es = []
  | bounds lower upper => lower = 0 ∧ upper = some 0
  | number n => n = 0

end Answer

/-- A step of a cursor. -/
def step (c : Cursor) : Step → Answer × Cursor
  | .next => (.entry c.next.1, c.next.2)
  | .nth n => (.entry (c.nth n).1, (c.nth n).2)
  | .take n => (.entries (take n c).1, (take n c).2)
  | .every n _ => (.entries (takeEvery n 3 c).1, (takeEvery n 3 c).2)
  | .sizeHint => (.bounds c.remaining (some c.remaining), c)
  | .count => (.number c.remaining, c.drained)
  | .last => (.entry c.last, c.drained)
  | .ageSum => (.number c.ageSum.toInt, c.drained)

/-- The same step of a list. -/
def onList (L : List AgeEntry) : Step → Answer × List AgeEntry
  | .next => (.entry L.head?, L.tail)
  | .nth n => (.entry L[n]?, L.drop (n + 1))
  | .take n => (.entries (L.take n), L.drop n)
  | .every n _ => (.entries ((List.range 3).filterMap fun i => L[i * n]?), L.drop (2 * n + 1))
  | .sizeHint => (.bounds L.length (some L.length), L)
  | .count => (.number L.length, [])
  | .last => (.entry L.getLast?, [])
  | .ageSum => (.number (ages L).sum, [])

/-- A walk: the answers to steps that are taken one after the other, and what comes of it all. -/
def run {σ : Type} (step : σ → Step → Answer × σ) (start : σ) : List Step → List Answer × σ
  | [] => ([], start)
  | m :: ms =>
    let (a, next) := step start m
    let (as, final) := run step next ms
    (a :: as, final)

section Run

variable {σ : Type} {step : σ → Step → Answer × σ} {start : σ} {m : Step} {ms : List Step}

theorem fst_run_cons :
    (run step start (m :: ms)).1 = (step start m).1 :: (run step (step start m).2 ms).1 := rfl

theorem snd_run_cons :
    (run step start (m :: ms)).2 = (run step (step start m).2 ms).2 := rfl

end Run

/-! ## The cursor takes the steps of the list -/

variable {s : YearSpan} {c : Cursor} {L : List AgeEntry}

theorem onList_suffix (L : List AgeEntry) (m : Step) : (onList L m).2 <:+ L := by
  cases m with
  | next => exact List.tail_suffix L
  | nth n => exact List.drop_suffix _ L
  | take n => exact List.drop_suffix _ L
  | every n _ => exact List.drop_suffix _ L
  | sizeHint => exact List.suffix_refl L
  | count => exact List.nil_suffix
  | last => exact List.nil_suffix
  | ageSum => exact List.nil_suffix

/-- **One step.** What remains has to be of some span, so that the sum of its ages is exact. -/
theorem step_eq (h : c.toList <:+ s.entries) (m : Step) :
    (c.step m).1 = (onList c.toList m).1 ∧ (c.step m).2.toList = (onList c.toList m).2 := by
  cases m with
  | next => exact ⟨congrArg Answer.entry c.fst_next, c.toList_next⟩
  | nth n => exact ⟨congrArg Answer.entry (c.fst_nth n), c.toList_nth n⟩
  | take n => exact ⟨congrArg Answer.entries (take_eq n c).1, (take_eq n c).2⟩
  | every n pos =>
    obtain ⟨hanswer, hrest⟩ := takeEvery_succ_eq pos 2 c
    exact ⟨congrArg Answer.entries hanswer, hrest⟩
  | sizeHint =>
    refine ⟨?_, rfl⟩
    rw [step, onList, length_toList]
  | count =>
    refine ⟨?_, c.toList_drained⟩
    rw [step, onList, length_toList]
  | last => exact ⟨congrArg Answer.entry c.last_eq, c.toList_drained⟩
  | ageSum =>
    refine ⟨?_, c.toList_drained⟩
    rw [step, onList, ageSum_eq, YearSpan.toInt_totalAge_of_sublist h.sublist]

/-- **A walk.** What remains stays an end of the entries of the span, so each step is one of the
list. -/
theorem run_eq (h : c.toList <:+ s.entries) (ms : List Step) :
    (run step c ms).1 = (run onList c.toList ms).1 ∧
      (run step c ms).2.toList = (run onList c.toList ms).2 := by
  induction ms generalizing c with
  | nil => exact ⟨rfl, rfl⟩
  | cons m ms ih =>
    obtain ⟨hanswer, hrest⟩ := step_eq h m
    have hsuffix : (c.step m).2.toList <:+ s.entries := by
      rw [hrest]
      exact (onList_suffix c.toList m).trans h
    obtain ⟨hanswers, hfinal⟩ := ih hsuffix
    rw [hrest] at hanswers hfinal
    rw [fst_run_cons, fst_run_cons, hanswer, hanswers]
    exact ⟨rfl, hfinal⟩

/-! ## What a list answers and has left -/

/-- The step passes no entry without answering it. -/
def Step.PassesNone : Step → Prop
  | next => True
  | nth n => n = 0
  | take _ => True
  | every n _ => n = 1
  | sizeHint => True
  | count => False
  | last => False
  | ageSum => False

theorem toList_getElem?_append_drop (L : List AgeEntry) (k : Nat) :
    L[k]?.toList ++ L.drop (k + 1) = L.drop k := by
  by_cases h : k < L.length
  · rw [List.getElem?_eq_getElem h, Option.toList_some, List.drop_eq_getElem_cons h]
    rfl
  · rw [List.getElem?_eq_none (by omega), List.drop_of_length_le (by omega),
      List.drop_of_length_le (by omega)]
    rfl

/-- Three entries `n` places apart, with what stands between the second and the rest. -/
theorem toList_every (L : List AgeEntry) (n : Nat) :
    (List.range 3).filterMap (fun i => L[i * n]?) ++ L.drop (2 * n + 1) =
      L[0]?.toList ++ (L[n]?.toList ++ L.drop (2 * n)) := by
  rw [← toList_getElem?_append_drop L (2 * n), List.filterMap_eq_flatMap_toList]
  simp [show List.range 3 = [0, 1, 2] from rfl]

/-- What a step answers and what it leaves are parts of the list, in their order. -/
theorem parts_onList (L : List AgeEntry) (m : Step) :
    ((onList L m).1.toList ++ (onList L m).2).Sublist L := by
  cases m with
  | next => cases L <;> exact List.Sublist.refl _
  | nth n =>
    have hparts : L[n]?.toList ++ L.drop (n + 1) = L.drop n := toList_getElem?_append_drop L n
    exact hparts ▸ List.drop_sublist n L
  | take n =>
    have hparts : L.take n ++ L.drop n = L := List.take_append_drop n L
    exact hparts.symm ▸ List.Sublist.refl L
  | every n pos =>
    have hsecond : (L[n]?.toList ++ L.drop (2 * n)).Sublist (L.drop n) := by
      rw [← toList_getElem?_append_drop L n]
      exact (List.drop_sublist_drop_left L (by omega)).append_left _
    have hfirst : (L[0]?.toList ++ L.drop n).Sublist L := by
      have hparts : L[0]?.toList ++ L.drop 1 = L := toList_getElem?_append_drop L 0
      have hskip : (L[0]?.toList ++ L.drop n).Sublist (L[0]?.toList ++ L.drop 1) :=
        (List.drop_sublist_drop_left L pos).append_left _
      rwa [hparts] at hskip
    have hparts := toList_every L n
    exact hparts ▸ (hsecond.append_left _).trans hfirst
  | sizeHint => exact List.Sublist.refl L
  | count => exact List.nil_sublist L
  | last =>
    change (L.getLast?.toList ++ []).Sublist L
    cases hlast : L.getLast? with
    | none => exact List.nil_sublist L
    | some e => exact List.singleton_sublist.2 (List.mem_of_getLast? hlast)
  | ageSum => exact List.nil_sublist L

/-- So it is for a walk: nothing comes twice or out of order. -/
theorem parts_run (L : List AgeEntry) (ms : List Step) :
    ((run onList L ms).1.flatMap Answer.toList ++ (run onList L ms).2).Sublist L := by
  induction ms generalizing L with
  | nil => exact List.Sublist.refl L
  | cons m ms ih =>
    rw [fst_run_cons, snd_run_cons, List.flatMap_cons, List.append_assoc]
    exact ((ih (onList L m).2).append_left _).trans (parts_onList L m)

theorem parts_onList_of_passesNone {m : Step} (h : m.PassesNone) (L : List AgeEntry) :
    (onList L m).1.toList ++ (onList L m).2 = L := by
  cases m with
  | next => cases L <;> rfl
  | nth n =>
    obtain rfl : n = 0 := h
    exact toList_getElem?_append_drop L 0
  | take n => exact List.take_append_drop n L
  | every n pos =>
    obtain rfl : n = 1 := h
    refine (toList_every L 1).trans ?_
    rw [toList_getElem?_append_drop L 1]
    exact toList_getElem?_append_drop L 0
  | sizeHint => rfl
  | count => exact h.elim
  | last => exact h.elim
  | ageSum => exact h.elim

/-- A walk that passes none loses none. -/
theorem parts_run_of_passesNone {ms : List Step} (h : ∀ m ∈ ms, m.PassesNone)
    (L : List AgeEntry) :
    (run onList L ms).1.flatMap Answer.toList ++ (run onList L ms).2 = L := by
  induction ms generalizing L with
  | nil => rfl
  | cons m ms ih =>
    have hparts := parts_onList_of_passesNone (h m List.mem_cons_self) L
    have hrest := ih (fun m' hm' => h m' (List.mem_cons_of_mem m hm')) (onList L m).2
    rw [fst_run_cons, snd_run_cons, List.flatMap_cons, List.append_assoc, hrest, hparts]

theorem isVoid_onList_nil (m : Step) : (onList [] m).1.IsVoid ∧ (onList [] m).2 = [] := by
  cases m <;> simp [onList, Answer.IsVoid, ages]

/-- At the end of the list nothing comes any more. -/
theorem isVoid_run_nil (ms : List Step) :
    (∀ a ∈ (run onList [] ms).1, a.IsVoid) ∧ (run onList [] ms).2 = [] := by
  induction ms with
  | nil => exact ⟨by simp [run], rfl⟩
  | cons m ms ih =>
    obtain ⟨hvoid, hnil⟩ := isVoid_onList_nil m
    rw [fst_run_cons, snd_run_cons, hnil]
    refine ⟨?_, ih.2⟩
    intro a ha
    rcases List.mem_cons.1 ha with rfl | ha
    · exact hvoid
    · exact ih.1 a ha

/-! ## From the beginning of a span -/

/-- **A walk along a span is a walk along the list of its entries,** which are the years from the
birth year on, numbered from zero. An age is relative to the birth year however many entries were
skipped; nothing comes twice or out of order, and nothing is lost unless a step passes it; and once
nothing remains, nothing comes for ever. -/
theorem walk_agrees_list (s : YearSpan) (ms : List Step) :
    let seen := run step (ofSpan s) ms
    let expected := run onList s.entries ms
    s.entries.map AgeEntry.row = s.rows ∧
    seen.1 = expected.1 ∧
    seen.2.toList = expected.2 ∧
    (∀ a ∈ seen.1, ∀ e ∈ a.toList, e.age.toInt = e.year.toInt - s.birthYear.toInt) ∧
    (seen.1.flatMap Answer.toList ++ seen.2.toList).Sublist s.entries ∧
    ((∀ m ∈ ms, m.PassesNone) →
      seen.1.flatMap Answer.toList ++ seen.2.toList = s.entries) ∧
    (seen.2.toList = [] → ∀ later,
      (∀ a ∈ (run step seen.2 later).1, a.IsVoid) ∧ (run step seen.2 later).2.toList = []) := by
  intro seen expected
  have hstart : (ofSpan s).toList <:+ s.entries := ⟨[], toList_ofSpan s⟩
  obtain ⟨hanswers, hfinal⟩ := run_eq hstart ms
  rw [toList_ofSpan] at hanswers hfinal
  have hparts : (seen.1.flatMap Answer.toList ++ seen.2.toList).Sublist s.entries := by
    rw [hanswers, hfinal]
    exact parts_run s.entries ms
  refine ⟨s.map_row_entries, hanswers, hfinal, ?_, hparts, ?_, ?_⟩
  · intro a ha e he
    have hmem : e ∈ seen.1.flatMap Answer.toList := List.mem_flatMap.2 ⟨a, ha, he⟩
    have hentry : e ∈ s.entries := hparts.subset (List.mem_append_left _ hmem)
    rw [s.entries_eq] at hentry
    obtain ⟨k, -, rfl⟩ := List.mem_map.1 hentry
    exact s.toInt_ageOf _
  · intro hpasses
    rw [hanswers, hfinal]
    exact parts_run_of_passesNone hpasses s.entries
  · intro hdone later
    have hsuffix : seen.2.toList <:+ s.entries := by
      rw [hdone]
      exact List.nil_suffix
    obtain ⟨hlater, hend⟩ := run_eq hsuffix later
    rw [hlater, hend, hdone]
    exact isVoid_run_nil later

/-- The seven years before the last that 32 bits hold: the walk loses none, and beyond them nothing
comes, though the place before the cursor is the last year itself. -/
theorem walk_agrees_list_before_last_year :
    let s : YearSpan := ⟨2147483640, 2147483647⟩
    let ms : List Step := [.next, .take 2, .every 1 Nat.one_pos, .nth 0, .sizeHint]
    let seen := run step (ofSpan s) ms
    seen.1.flatMap Answer.toList ++ seen.2.toList = s.entries ∧
    (run step seen.2 [.nth 5, .last, .ageSum]).1 = [.entry none, .entry none, .number 0] ∧
    ∀ later, (run step seen.2 later).2.toList = [] := by
  intro s ms seen
  obtain ⟨-, -, -, -, -, hpasses, hvoid⟩ := walk_agrees_list s ms
  have hnone : ∀ m ∈ ms, m.PassesNone := by
    simp [ms, Step.PassesNone]
  have hdone : seen.2.toList = [] := by decide +kernel
  exact ⟨hpasses hnone, by decide +kernel, fun later => (hvoid hdone later).2⟩

end AgeReport.Cursor
