import AgeReport.Text.Blank
import Mathlib.Data.List.TakeWhile

/-!
# What trimming leaves

Trimming drops the longest runs of blanks at both ends. What it leaves is the only part of the text
that is bare of blanks at its ends and has nothing but blanks around it.

Results:
* `exists_padding`, `bare_trim`: what is dropped, and what is left.
* `trim_padded`, `trim_eq_iff`: nothing else could be left.
* `trim_eq_self_iff`: the texts that trimming keeps.
-/

namespace AgeReport.Text

/-- Nothing but blanks. -/
def Blank (cs : List Char) : Prop :=
  ∀ c ∈ cs, isBlank c = true

/-- Neither the first nor the last character is a blank. -/
def Bare (cs : List Char) : Prop :=
  ∀ c, cs.head? = some c ∨ cs.getLast? = some c → isBlank c = false

variable {cs before behind : List Char}

theorem blank_reverse : Blank cs.reverse ↔ Blank cs := by
  simp [Blank]

theorem trimRight_eq_reverse (cs : List Char) : trimRight cs = (trimLeft cs.reverse).reverse := rfl

/-! ## One end -/

theorem blank_takeWhile (cs : List Char) : Blank (cs.takeWhile isBlank) := by
  intro c hc
  exact List.mem_takeWhile_imp hc

theorem eq_append_trimLeft (cs : List Char) : cs = cs.takeWhile isBlank ++ trimLeft cs :=
  List.takeWhile_append_dropWhile.symm

theorem head?_trimLeft {c : Char} (h : (trimLeft cs).head? = some c) : isBlank c = false := by
  have hnot := List.head?_dropWhile_not isBlank cs
  rw [trimLeft] at h
  rw [h] at hnot
  exact hnot

theorem trimLeft_append (h : Blank before) (cs : List Char) :
    trimLeft (before ++ cs) = trimLeft cs := by
  rw [trimLeft, List.dropWhile_append_of_pos h, trimLeft]

theorem trimLeft_of_head? (h : ∀ c, cs.head? = some c → isBlank c = false) :
    trimLeft cs = cs := by
  cases cs with
  | nil => rfl
  | cons c cs => exact trimLeft_cons_of_not_blank (h c rfl) cs

/-! ## Both ends -/

/-- What is dropped is nothing but blanks. -/
theorem exists_padding (cs : List Char) :
    ∃ before behind, cs = before ++ trim cs ++ behind ∧ Blank before ∧ Blank behind := by
  let middle := trimLeft cs
  have hmiddle : middle = trim cs ++ (middle.reverse.takeWhile isBlank).reverse := by
    have h := congrArg List.reverse (eq_append_trimLeft middle.reverse)
    rwa [List.reverse_reverse, List.reverse_append, ← trimRight_eq_reverse] at h
  refine ⟨cs.takeWhile isBlank, (middle.reverse.takeWhile isBlank).reverse, ?_,
    blank_takeWhile cs, blank_reverse.2 (blank_takeWhile _)⟩
  rw [List.append_assoc, ← hmiddle]
  exact eq_append_trimLeft cs

theorem bare_trim (cs : List Char) : Bare (trim cs) := by
  rintro c (hhead | hlast)
  · -- what is left begins as what was left when only the beginning had been trimmed
    obtain ⟨behind, hprefix⟩ : trim cs <+: trimLeft cs := by
      rw [trim, trimRight_eq_reverse, ← List.reverse_suffix, List.reverse_reverse]
      exact List.dropWhile_suffix isBlank
    have hleft : (trimLeft cs).head? = some c := by
      rw [← hprefix, List.head?_append, hhead, Option.some_or]
    exact head?_trimLeft hleft
  · rw [trim, trimRight_eq_reverse, List.getLast?_reverse] at hlast
    exact head?_trimLeft hlast

/-- A bare text comes out of any padding. -/
theorem trim_padded (hbefore : Blank before) (hbehind : Blank behind) (h : Bare cs) :
    trim (before ++ cs ++ behind) = cs := by
  have hright : trimRight (cs ++ behind) = cs := by
    rw [trimRight_eq_reverse, List.reverse_append, trimLeft_append (blank_reverse.2 hbehind),
      trimLeft_of_head?, List.reverse_reverse]
    intro c hc
    rw [List.head?_reverse] at hc
    exact h c (.inr hc)
  rw [trim, List.append_assoc, trimLeft_append hbefore]
  cases cs with
  | nil =>
    -- the padding alone: all of it is dropped from one end
    have hnil := trimLeft_append hbehind []
    rw [List.append_nil] at hnil
    rw [List.nil_append, hnil]
    rfl
  | cons c cs =>
    have hleft : trimLeft (c :: cs ++ behind) = c :: cs ++ behind :=
      trimLeft_cons_of_not_blank (h c (.inl rfl)) _
    rw [hleft, hright]

/-- What trimming leaves is bare, with nothing but blanks around it; there is no other such text. -/
theorem trim_eq_iff {t : List Char} : trim cs = t ↔
    Bare t ∧ ∃ before behind, cs = before ++ t ++ behind ∧ Blank before ∧ Blank behind := by
  constructor
  · rintro rfl
    exact ⟨bare_trim cs, exists_padding cs⟩
  · rintro ⟨hbare, before, behind, rfl, hbefore, hbehind⟩
    exact trim_padded hbefore hbehind hbare

theorem trim_eq_self_iff : trim cs = cs ↔ Bare cs := by
  constructor
  · intro h
    exact h ▸ bare_trim cs
  · intro h
    exact trim_eq_iff.2 ⟨h, [], [], by simp, by simp [Blank], by simp [Blank]⟩

/-- A text without any blanks is bare. -/
theorem bare_of_forall (h : ∀ c ∈ cs, isBlank c = false) : Bare cs := by
  rintro c (hhead | hlast)
  · exact h c (List.mem_of_mem_head? hhead)
  · exact h c (List.mem_of_mem_getLast? hlast)

end AgeReport.Text
