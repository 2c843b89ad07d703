import AgeReport.Proofs.Settings.Resolution

/-!
# Assignments that the system refuses

The system sets no variable to a value with a zero byte, and a program that asks for it crashes. A
settings file asks for it with the first assignment of such a value to a variable that has no text
yet; this is then the last assignment that is read. Nothing else is refused, for a name in a
settings file is never empty and holds neither an equals sign nor a zero byte.

Results:
* `isName_of_readLine`: what the names in a settings file are made of.
* `exists_offerAll_front`: whatever stands before the last assignment is taken.
* `load_eq_error_iff`: the files that cannot be loaded.
-/

namespace AgeReport.EnvFile

/-! ## Names -/

/-- The names that a settings file can hold. -/
def IsName (name : String) : Prop :=
  name ≠ "" ∧ ∀ c ∈ name.toList, isNamePart c = true

theorem isNamePart_of_isNameStart {c : Char} (h : isNameStart c = true) : isNamePart c = true := by
  rw [isNameStart, Bool.or_eq_true] at h
  rw [isNamePart, Char.isAlphanum]
  rcases h with h | h <;> simp [h]

theorem isName_of_readName {cs name rest : List Char} (h : readName cs = some (name, rest)) :
    IsName (String.ofList name) := by
  unfold readName at h
  split at h
  · cases h
  · split at h
    · rename_i c cs hstart
      cases h
      have hpart := isNamePart_of_isNameStart hstart
      refine ⟨by simp [hpart], fun d hd => ?_⟩
      rw [String.toList_ofList] at hd
      exact List.all_eq_true.1 List.all_takeWhile d hd
    · cases h

theorem isName_of_readHead {cs name rest : List Char} (h : readHead cs = some (name, rest)) :
    IsName (String.ofList name) := by
  obtain ⟨⟨first, behind⟩, hfirst, h⟩ := Option.bind_eq_some_iff.1 h
  dsimp only at h
  split at h
  · cases h
    exact isName_of_readName hfirst
  · split at h
    · obtain ⟨⟨second, behind⟩, hsecond, h⟩ := Option.bind_eq_some_iff.1 h
      obtain ⟨_, -, h⟩ := Option.bind_eq_some_iff.1 h
      cases h
      exact isName_of_readName hsecond
    · cases h

theorem isName_of_readLine {lookup : List Char → List Char} {cs : List Char} {a : Assignment}
    (h : readLine lookup cs = .assignment a) : IsName a.name := by
  unfold readLine at h
  split at h
  · cases h
  · cases h
  · split at h
    · cases h
    · rename_i hhead
      split at h
      · cases h
      · cases h
        exact isName_of_readHead hhead

theorem isName_of_mem_loadLines {s : Scope} {lines : List (List Char)} {a : Assignment}
    (h : a ∈ (loadLines s lines).1) : IsName a.name := by
  induction lines generalizing s with
  | nil => cases h
  | cons line lines ih =>
    rw [loadLines] at h
    split at h
    · cases h
    · exact ih h
    · rename_i hline
      split at h
      · obtain rfl := List.mem_singleton.1 h
        exact isName_of_readLine hline
      · rcases List.mem_cons.1 h with rfl | h
        · exact isName_of_readLine hline
        · exact ih h

/-! ## One offer -/

/-- How the system refuses an assignment. -/
def Assignment.refusal (a : Assignment) : Environment.Refusal :=
  ⟨a.name, a.value, .zeroInPath⟩

variable {e e' : Environment} {a : Assignment} {given front back : List Assignment}
  {r : Environment.Refusal}

theorem offer_of_zero (htext : e.text? a.name = none) (hzero : '\x00' ∈ a.value.toList) :
    e.offer a.name a.value = .error a.refusal := by
  rw [Environment.offer_of_none htext, Environment.set, if_pos (.inr hzero)]
  rfl

/-- An offer is refused only for a zero byte in the value of a variable without a text. -/
theorem offer_eq_error_iff (hname : IsName a.name) :
    e.offer a.name a.value = .error r ↔
      e.text? a.name = none ∧ '\x00' ∈ a.value.toList ∧ r = a.refusal := by
  constructor
  · intro h
    cases htext : e.text? a.name with
    | some raw =>
      rw [Environment.offer_of_isSome (by simp [htext])] at h
      cases h
    | none =>
      by_cases hzero : '\x00' ∈ a.value.toList
      · rw [offer_of_zero htext hzero] at h
        exact ⟨rfl, hzero, (Except.error.inj h).symm⟩
      · have hparts : ∀ c, isNamePart c = false → c ∉ a.name.toList := fun c hc hmem => by
          rw [hname.2 c hmem] at hc
          cases hc
        have hnozero : ¬ ('\x00' ∈ a.name.toList ∨ '\x00' ∈ a.value.toList) :=
          not_or.2 ⟨hparts _ (by decide), hzero⟩
        have hgood : ¬ (a.name = "" ∨ '=' ∈ a.name.toList) :=
          not_or.2 ⟨hname.1, hparts _ (by decide)⟩
        rw [Environment.offer_of_none htext, Environment.set, if_neg hnozero, if_neg hgood] at h
        cases h
  · rintro ⟨htext, hzero, rfl⟩
    exact offer_of_zero htext hzero

/-! ## All offers -/

theorem offerAll_append (e : Environment) (front back : List Assignment) :
    offerAll e (front ++ back) = offerAll e front >>= (offerAll · back) :=
  List.foldlM_append

/-- Where offers come to a refusal, one of them is refused and those before it are taken. -/
theorem exists_of_offerAll_eq_error (h : offerAll e given = .error r) :
    ∃ front a back e', given = front ++ a :: back ∧ offerAll e front = .ok e' ∧
      e'.offer a.name a.value = .error r := by
  induction given generalizing e with
  | nil => cases h
  | cons a given ih =>
    rw [offerAll_cons] at h
    cases hoffer : e.offer a.name a.value with
    | error r' =>
      rw [hoffer] at h
      cases h
      exact ⟨[], a, given, e, rfl, rfl, hoffer⟩
    | ok e₁ =>
      rw [hoffer] at h
      obtain ⟨front, a', back, e', rfl, hfront, hrefused⟩ := ih h
      refine ⟨a :: front, a', back, e', rfl, ?_, hrefused⟩
      rw [offerAll_cons, hoffer]
      exact hfront

/-- Reading goes on only behind an assignment that was taken. -/
theorem exists_offerAll_front {s : Scope} {lines : List (List Char)}
    (h : (loadLines s lines).1 = front ++ a :: back) :
    ∃ e', offerAll s.environment front = .ok e' := by
  induction lines generalizing s front with
  | nil => simp [loadLines] at h
  | cons line lines ih =>
    rw [loadLines] at h
    cases front with
    | nil => exact ⟨s.environment, rfl⟩
    | cons a₁ front =>
      split at h
      · cases h
      · exact ih h
      · rename_i a₂ _
        split at h
        · simp at h
        · rename_i s' hassign
          obtain ⟨rfl, hrest⟩ := List.cons.inj h
          obtain ⟨e', he'⟩ := ih hrest
          refine ⟨e', ?_⟩
          rw [offerAll_cons, (offer_of_assign hassign).1]
          exact he'

/-! ## A whole file -/

/-- The system refuses an assignment: nothing before it gives its variable a text, and its value
holds a zero byte. -/
def Refused (e : Environment) (given : List Assignment) (a : Assignment) : Prop :=
  ∃ front back, given = front ++ a :: back ∧ e.text? a.name = none ∧
    (∀ a' ∈ front, a'.name ≠ a.name) ∧ '\x00' ∈ a.value.toList

theorem firstValue?_eq_none_iff {name : String} :
    firstValue? given name = none ↔ ∀ a' ∈ given, a'.name ≠ name := by
  simp [firstValue?]

/-- A file cannot be loaded exactly if one of its assignments is refused. -/
theorem load_eq_error_iff {file : Bytes} :
    load e file = .error r ↔ ∃ a, Refused e (assignments e file) a ∧ r = a.refusal := by
  rw [load_eq_offerAll]
  constructor
  · intro h
    obtain ⟨front, a, back, e', hgiven, hfront, hrefused⟩ := exists_of_offerAll_eq_error h
    have hmem : a ∈ assignments e file := by simp [hgiven]
    have hname : IsName a.name := isName_of_mem_loadLines hmem
    obtain ⟨htext, hzero, rfl⟩ := (offer_eq_error_iff hname).1 hrefused
    rw [Environment.text?_offerAll hfront, Option.or_eq_none_iff, firstValue?_eq_none_iff] at htext
    exact ⟨a, ⟨front, back, hgiven, htext.1, htext.2, hzero⟩, rfl⟩
  · rintro ⟨a, ⟨front, back, hgiven, htext, hfirst, hzero⟩, rfl⟩
    obtain ⟨e', hfront⟩ : ∃ e', offerAll e front = .ok e' := exists_offerAll_front hgiven
    have htext' : e'.text? a.name = none := by
      rw [Environment.text?_offerAll hfront, Option.or_eq_none_iff]
      exact ⟨htext, firstValue?_eq_none_iff.2 hfirst⟩
    rw [hgiven, offerAll_append, hfront]
    change offerAll e' (a :: back) = _
    rw [offerAll_cons, offer_of_zero htext' hzero]
    rfl

end AgeReport.EnvFile
