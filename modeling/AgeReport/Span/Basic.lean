/-!
# Spans of years

A span of years and the age reached in each of them. Bounds and years are 32-bit words and ages
64-bit words; the lemmas show that no operation here wraps, whatever the bounds.

* `toNat_length`: the length is the difference of the bounds, or zero;
* `toInt_year_entry`, `toInt_age_entry`: entry `k` is for the year `birthYear + k` at age `k`.
-/

namespace AgeReport

/-- The years from `birthYear` up to, and without, `currentYear`; none if the bounds are equal or
inverted (`YearSpan`). -/
structure YearSpan where
  birthYear : Int32
  currentYear : Int32
deriving DecidableEq, Repr

/-- A year and the age reached in it (`AgeEntry`). -/
structure AgeEntry where
  year : Int32
  age : Int64
deriving DecidableEq, Repr

/-- The birth year when nothing else is said (`BIRTH_YEAR`). -/
def standardBirthYear : Int32 := 1999

/-- The end of the span when nothing else is said (`CURRENT_YEAR`). -/
def standardCurrentYear : Int32 := 2023

namespace YearSpan

/-- The span when nothing else is said. -/
def standard : YearSpan := ⟨standardBirthYear, standardCurrentYear⟩

/-- The number of entries (`len`), widened to 64 bits before the difference is taken. -/
def length (s : YearSpan) : UInt64 :=
  (max (s.currentYear.toInt64 - s.birthYear.toInt64) 0).toUInt64

/-- The entry of a year, as `entries` makes it. -/
def entryOf (s : YearSpan) (year : Int32) : AgeEntry :=
  ⟨year, year.toInt64 - s.birthYear.toInt64⟩

/-- The entry number `k`, counted from zero. -/
def entry (s : YearSpan) (k : Nat) : AgeEntry :=
  s.entryOf (s.birthYear + Int32.ofNat k)

/-! ## The words against the integers -/

theorem toInt_ageOf (s : YearSpan) (year : Int32) :
    (year.toInt64 - s.birthYear.toInt64).toInt = year.toInt - s.birthYear.toInt := by
  have h1 := Int32.le_toInt year
  have h2 := Int32.toInt_lt year
  have h3 := Int32.le_toInt s.birthYear
  have h4 := Int32.toInt_lt s.birthYear
  rw [Int64.toInt_sub, Int32.toInt_toInt64, Int32.toInt_toInt64]
  apply Int.bmod_eq_of_le <;> omega

theorem toNat_length (s : YearSpan) :
    s.length.toNat = (s.currentYear.toInt - s.birthYear.toInt).toNat := by
  have hd := toInt_ageOf s s.currentYear
  unfold length
  generalize s.currentYear.toInt64 - s.birthYear.toInt64 = d at hd
  have hmax : 0 ≤ max d 0 := by
    simp only [Max.max]
    split
    · exact Int64.le_refl 0
    · rename_i h
      exact (Int64.le_total d 0).resolve_left h
  rw [Int64.toNat_toUInt64_of_le hmax, ← hd]
  simp only [Max.max]
  split
  · rename_i h
    have h0 : d.toInt ≤ 0 := Int64.le_iff_toInt_le.1 h
    change 0 = d.toInt.toNat
    omega
  · rfl

theorem toNat_length_lt (s : YearSpan) : s.length.toNat < 4294967296 := by
  have h1 := Int32.toInt_lt s.currentYear
  have h2 := Int32.le_toInt s.birthYear
  rw [toNat_length]
  omega

/-- Counting in words does not wrap below the end of the 32 bits. -/
theorem toInt_add_ofNat {year : Int32} {k : Nat} (h : year.toInt + k < 2147483648) :
    (year + Int32.ofNat k).toInt = year.toInt + k := by
  have hlow := Int32.le_toInt year
  rw [Int32.toInt_add, Int32.toInt_ofNat', show Int32.size = 2 ^ 32 from rfl, Int.add_bmod_bmod]
  apply Int.bmod_eq_of_le <;> omega

/-- Up to the length of the span, no year wraps. -/
theorem toInt_year_entry (s : YearSpan) {k : Nat} (hk : k < s.length.toNat) :
    (s.entry k).year.toInt = s.birthYear.toInt + k := by
  have hend := Int32.toInt_lt s.currentYear
  rw [toNat_length] at hk
  exact toInt_add_ofNat (by omega)

theorem toInt_age_entry (s : YearSpan) {k : Nat} (hk : k < s.length.toNat) :
    (s.entry k).age.toInt = k := by
  change ((s.entry k).year.toInt64 - s.birthYear.toInt64).toInt = k
  rw [toInt_ageOf, toInt_year_entry s hk]
  omega

end YearSpan

/-! ## Counting years -/

/-- The year behind `k` others and the one after it. -/
theorem add_ofNat_succ (year : Int32) (k : Nat) :
    year + Int32.ofNat (k + 1) = year + Int32.ofNat k + 1 := by
  rw [Int32.ofNat_add, ← Int32.add_assoc]
  rfl

/-- Counting on from the next year. -/
theorem succ_add_ofNat (year : Int32) (k : Nat) :
    year + 1 + Int32.ofNat k = year + Int32.ofNat (k + 1) := by
  rw [add_ofNat_succ, Int32.add_assoc, Int32.add_assoc, Int32.add_comm 1]

end AgeReport
