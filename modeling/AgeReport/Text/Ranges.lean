/-!
# Sets of code points

A set of code points as an ascending list of closed ranges, the form of the character tables.

* `Ranges.holds_eq_any`: on an ascending list, membership is membership in one of the ranges.
-/

namespace AgeReport.Text

/-- Closed ranges of code points, in ascending order. -/
abbrev Ranges := List (Nat × Nat)

/-- Whether `n` lies in one of the ranges; the search stops at the first range above `n`. -/
def Ranges.holds : Ranges → Nat → Bool
  | [], _ => false
  | (lo, hi) :: ranges, n => if n < lo then false else n ≤ hi || Ranges.holds ranges n

/-- The ranges do not overlap and ascend. -/
def Ranges.Ascending (ranges : Ranges) : Prop :=
  ranges.Pairwise fun r s => r.2 < s.1

theorem Ranges.holds_eq_any {ranges : Ranges} (h : ranges.Ascending)
    (hle : ∀ r ∈ ranges, r.1 ≤ r.2) (n : Nat) :
    ranges.holds n = ranges.any fun r => r.1 ≤ n && n ≤ r.2 := by
  induction ranges with
  | nil => rfl
  | cons r ranges ih =>
    obtain ⟨lo, hi⟩ := r
    have hp := List.pairwise_cons.1 h
    have hr : lo ≤ hi := hle (lo, hi) (by simp)
    simp only [Ranges.holds, List.any_cons]
    by_cases hn : n < lo
    · have hrest : ranges.any (fun r => r.1 ≤ n && n ≤ r.2) = false := by
        rw [List.any_eq_false]
        intro s hs
        have := hp.1 s hs
        simp only [Bool.and_eq_true, decide_eq_true_eq, not_and]
        omega
      simp [hn, hrest, Nat.not_le.2 hn]
    · rw [if_neg hn, ih hp.2 fun s hs => hle s (by simp [hs])]
      simp [Nat.le_of_not_lt hn]

end AgeReport.Text
