import AgeReport.Proofs.Settings.YearTexts
import Mathlib.Logic.Function.Basic

/-!
# Which variables the settings depend on

A bound is asked for in the environment only if it has no option, the birth year first, and nothing
more is asked once a text is no year. What has not been asked for cannot matter: an environment that
gives the same answers to these questions is asked the same questions and gives the same settings.

Results:
* `asked_eq`: the bounds that are asked for, in order.
* `settings_eq_error_iff`: the failure is that of the first bound without a value.
* `resolve_congr`: the answers to what is asked determine the settings and what is asked.
* `settings_depend_on_asked`: the same by the names of the variables, for any environment.
-/

namespace AgeReport

/-- A text that is there and is no year, blanks around it apart. -/
def Unusable (text : Option String) : Prop :=
  ∃ raw, text = some raw ∧ ¬ ∃ y : Int32, Numeral.Spells (Text.trim raw.toList) y.toInt

/-- What an environment has for the bounds. -/
def boundTexts (env : String → Option String) (b : Bound) : Option String :=
  env b.variableName

variable {b : Bound} {f : Failure}

theorem exists_settleBound_error_iff {text : Option String} :
    (∃ f, settleBound b text = .error f) ↔ Unusable text := by
  cases text with
  | none =>
    constructor
    · rintro ⟨f, ⟨⟩⟩
    · rintro ⟨raw, ⟨⟩, -⟩
  | some raw =>
    constructor
    · rintro ⟨f, hf⟩
      refine ⟨raw, rfl, ?_⟩
      rintro ⟨y, hy⟩
      rw [settleBound_eq_ok_iff.2 hy] at hf
      cases hf
    · rintro ⟨raw', ⟨⟩, hno⟩
      cases hsettle : settleBound b (some raw) with
      | ok y => exact absurd ⟨y, settleBound_eq_ok_iff.1 hsettle⟩ hno
      | error f => exact ⟨f, rfl⟩

namespace Options

variable {o : Options} {lookup lookup' : Bound → Option String}

theorem exists_boundValue_error_iff :
    (∃ f, o.boundValue lookup b = .error f) ↔ o.bound? b = none ∧ Unusable (lookup b) := by
  cases hb : o.bound? b with
  | some y =>
    rw [boundValue_of_some hb]
    constructor
    · rintro ⟨f, ⟨⟩⟩
    · rintro ⟨⟨⟩, -⟩
  | none =>
    rw [boundValue_of_none hb, exists_settleBound_error_iff]
    simp

/-- A failure for a bound quotes the text of its variable, which is no year. -/
theorem invalidYear_of_boundValue (h : o.boundValue lookup b = .error f) :
    ∃ raw fault, lookup b = some raw ∧ Unusable (some raw) ∧ f = .invalidYear b raw fault := by
  obtain ⟨hb, raw, htext, hno⟩ := exists_boundValue_error_iff.1 ⟨f, h⟩
  rw [boundValue_of_none hb, htext] at h
  obtain ⟨fault, -, rfl⟩ := settleBound_eq_error_iff.1 h
  exact ⟨raw, fault, htext, ⟨raw, rfl, hno⟩, rfl⟩

/-! ## What is asked -/

/-- The birth year is asked for unless it has an option, and then the current year, unless it has
one or the birth year had no value. -/
theorem asked_eq (o : Options) (lookup : Bound → Option String) : o.asked lookup =
    (if (o.bound? .birth).isSome then [] else [.birth]) ++
      match o.boundValue lookup .birth with
      | .ok _ => if (o.bound? .current).isSome then [] else [.current]
      | .error _ => [] := by
  rw [asked, run_resolve, run_resolveBound, List.nil_append]
  cases o.boundValue lookup .birth with
  | error f => rw [List.append_nil]
  | ok birthYear =>
    simp only [run_resolveBound]
    cases o.boundValue lookup .current <;> cases (o.bound? .current).isSome <;> simp

theorem asked_sublist (o : Options) (lookup : Bound → Option String) :
    (o.asked lookup).Sublist [.birth, .current] := by
  rw [asked_eq]
  change List.Sublist _ ([Bound.birth] ++ [Bound.current])
  refine List.Sublist.append ?_ ?_
  · split <;> simp
  · split
    · split <;> simp
    · simp

theorem birth_mem_asked_iff : .birth ∈ o.asked lookup ↔ o.bound? .birth = none := by
  rw [asked_eq, List.mem_append]
  cases o.bound? .birth <;> cases o.boundValue lookup .birth <;>
    cases o.bound? .current <;> simp

theorem current_mem_asked_iff : .current ∈ o.asked lookup ↔
    o.bound? .current = none ∧ ¬ ∃ f, o.boundValue lookup .birth = .error f := by
  rw [asked_eq, List.mem_append]
  cases o.bound? .birth <;> cases o.boundValue lookup .birth <;>
    cases o.bound? .current <;> simp

theorem bound?_of_mem_asked (h : b ∈ o.asked lookup) : o.bound? b = none := by
  cases b with
  | birth => exact birth_mem_asked_iff.1 h
  | current => exact (current_mem_asked_iff.1 h).1

/-! ## What comes of it -/

/-- The failure is that of the birth year, or else that of the current year. -/
theorem settings_eq_error_iff : o.settings lookup = .error f ↔
    o.boundValue lookup .birth = .error f ∨
      (∃ y, o.boundValue lookup .birth = .ok y) ∧ o.boundValue lookup .current = .error f := by
  rw [settings_eq]
  cases o.boundValue lookup .birth with
  | error e =>
    constructor
    · rintro ⟨⟩
      exact .inl rfl
    · rintro (⟨⟨⟩⟩ | ⟨⟨y, ⟨⟩⟩, -⟩)
      rfl
  | ok birthYear =>
    cases o.boundValue lookup .current with
    | error e =>
      constructor
      · rintro ⟨⟩
        exact .inr ⟨⟨birthYear, rfl⟩, rfl⟩
      · rintro (⟨⟨⟩⟩ | ⟨-, ⟨⟩⟩)
        rfl
    | ok currentYear =>
      constructor
      · rintro ⟨⟩
      · rintro (⟨⟨⟩⟩ | ⟨-, ⟨⟩⟩)

/-- A failure quotes the text of a bound that was asked for, of the birth year if that had no
value. -/
theorem invalidYear_of_settings_error (h : o.settings lookup = .error f) :
    ∃ b ∈ o.asked lookup, ∃ raw fault,
      lookup b = some raw ∧ Unusable (some raw) ∧ f = .invalidYear b raw fault ∧
        (b = .birth ↔ ∃ f, o.boundValue lookup .birth = .error f) := by
  rcases settings_eq_error_iff.1 h with hbirth | ⟨⟨y, hbirth⟩, hcurrent⟩
  · have hoption := (exists_boundValue_error_iff.1 ⟨f, hbirth⟩).1
    obtain ⟨raw, fault, htext, hno, hf⟩ := invalidYear_of_boundValue hbirth
    exact ⟨.birth, birth_mem_asked_iff.2 hoption, raw, fault, htext, hno, hf,
      iff_of_true rfl ⟨f, hbirth⟩⟩
  · have hoption := (exists_boundValue_error_iff.1 ⟨f, hcurrent⟩).1
    obtain ⟨raw, fault, htext, hno, hf⟩ := invalidYear_of_boundValue hcurrent
    exact ⟨.current, current_mem_asked_iff.2 ⟨hoption, by simp [hbirth]⟩, raw, fault, htext, hno,
      hf, iff_of_false (by simp) (by simp [hbirth])⟩

/-- Settings fail exactly if the text of a bound that was asked for is no year. -/
theorem exists_settings_error_iff : (∃ f, o.settings lookup = .error f) ↔
    ∃ b ∈ o.asked lookup, Unusable (lookup b) := by
  constructor
  · rintro ⟨f, hf⟩
    obtain ⟨b, hb, raw, fault, htext, hno, -, -⟩ := invalidYear_of_settings_error hf
    exact ⟨b, hb, htext ▸ hno⟩
  · rintro ⟨b, hb, htext⟩
    obtain ⟨f, hf⟩ := exists_boundValue_error_iff.2 ⟨bound?_of_mem_asked hb, htext⟩
    cases hs : o.settings lookup with
    | error f => exact ⟨f, rfl⟩
    | ok r =>
      rw [(settings_eq_ok_iff.1 hs).1 b] at hf
      cases hf

/-- **Only what is asked counts.** The same answers to what is asked lead to the same questions and
to the same settings. -/
theorem resolve_congr (h : ∀ b ∈ o.asked lookup, lookup' b = lookup b) :
    o.settings lookup' = o.settings lookup ∧ o.asked lookup' = o.asked lookup := by
  have hbirth : o.boundValue lookup' .birth = o.boundValue lookup .birth :=
    boundValue_congr fun hb => h .birth (birth_mem_asked_iff.2 hb)
  rw [settings_eq, settings_eq, asked_eq, asked_eq, hbirth]
  cases hvalue : o.boundValue lookup .birth with
  | error f => exact ⟨rfl, rfl⟩
  | ok birthYear =>
    have hcurrent : o.boundValue lookup' .current = o.boundValue lookup .current :=
      boundValue_congr fun hc => h .current (current_mem_asked_iff.2 ⟨hc, by simp [hvalue]⟩)
    rw [hcurrent]
    exact ⟨rfl, rfl⟩

/-! ## By the names of the variables -/

/-- The names of the variables that are asked for, in order. -/
def askedNames (o : Options) (env : String → Option String) : List String :=
  (o.asked (boundTexts env)).map Bound.variableName

variable {env env' : String → Option String}

theorem variableName_mem_askedNames :
    b.variableName ∈ o.askedNames env ↔ b ∈ o.asked (boundTexts env) := by
  constructor
  · intro h
    obtain ⟨b', hb', hname⟩ := List.mem_map.1 h
    exact Bound.variableName_injective hname ▸ hb'
  · exact fun h => List.mem_map_of_mem h

theorem resolve_congr_names (h : ∀ name ∈ o.askedNames env, env' name = env name) :
    o.settings (boundTexts env') = o.settings (boundTexts env) ∧
      o.askedNames env' = o.askedNames env := by
  have hsame : ∀ b ∈ o.asked (boundTexts env), boundTexts env' b = boundTexts env b :=
    fun b hb => h b.variableName (variableName_mem_askedNames.2 hb)
  obtain ⟨hsettings, hasked⟩ := resolve_congr hsame
  exact ⟨hsettings, congrArg (List.map Bound.variableName) hasked⟩

/-- **What the settings depend on.** Of all variables at most two are asked for, each at most once:
that of the birth year, unless it has an option, and then that of the current year, unless it has an
option or the birth year could not be settled. The settings fail exactly if the text of a variable
that was asked for is no year, and with the birth year if both texts are none; otherwise the form of
the report and the path of the export are those of the options. An environment with the same texts
for the variables that were asked for makes no difference, and neither does any text of another
variable, or of one that is overridden by its option. -/
theorem settings_depend_on_asked (o : Options) (env : String → Option String) :
    let result := o.settings (boundTexts env)
    let names := o.askedNames env
    names.Sublist ["AGES_BIRTH_YEAR", "AGES_CURRENT_YEAR"] ∧
    ("AGES_BIRTH_YEAR" ∈ names ↔ o.birthYear = none) ∧
    ("AGES_CURRENT_YEAR" ∈ names ↔
      o.currentYear = none ∧ ¬ (o.birthYear = none ∧ Unusable (env "AGES_BIRTH_YEAR"))) ∧
    ((∃ f, result = .error f) ↔ ∃ name ∈ names, Unusable (env name)) ∧
    (∀ f, result = .error f → ∃ (b : Bound) (raw reason : String),
      b.variableName ∈ names ∧ env b.variableName = some raw ∧ Unusable (some raw) ∧
      f.exitError = ⟨2, "Invalid " ++ b.variableName ++ "='" ++ raw ++ "': " ++ reason⟩ ∧
      (b = .birth ↔ o.birthYear = none ∧ Unusable (env "AGES_BIRTH_YEAR"))) ∧
    (∀ r, result = .ok r → r.format = o.format ∧ r.exportPath = o.exportPath) ∧
    (∀ env', (∀ name ∈ names, env' name = env name) →
      o.settings (boundTexts env') = result ∧ o.askedNames env' = names) ∧
    ∀ name text, (∀ b : Bound, b.variableName = name → (o.bound? b).isSome) →
      o.settings (boundTexts (Function.update env name text)) = result ∧
        o.askedNames (Function.update env name text) = names := by
  intro result names
  have hbirth : (∃ f, o.boundValue (boundTexts env) .birth = .error f) ↔
      o.birthYear = none ∧ Unusable (env "AGES_BIRTH_YEAR") := exists_boundValue_error_iff
  refine ⟨(o.asked_sublist (boundTexts env)).map Bound.variableName, ?_, ?_, ?_, ?_, ?_, ?_, ?_⟩
  · exact (variableName_mem_askedNames (b := .birth)).trans birth_mem_asked_iff
  · rw [← hbirth]
    exact (variableName_mem_askedNames (b := .current)).trans current_mem_asked_iff
  · rw [show (∃ f, result = .error f) ↔ _ from exists_settings_error_iff]
    simp only [names, askedNames, List.mem_map, exists_exists_and_eq_and]
    rfl
  · intro f hf
    obtain ⟨b, hb, raw, fault, htext, hno, rfl, hwhich⟩ := invalidYear_of_settings_error hf
    exact ⟨b, raw, fault.message, variableName_mem_askedNames.2 hb, htext, hno, rfl,
      hwhich.trans hbirth⟩
  · intro r hr
    exact (settings_eq_ok_iff.1 hr).2
  · intro env'
    exact resolve_congr_names
  · intro name text hshadowed
    refine resolve_congr_names fun name' hname' => Function.update_of_ne ?_ _ _
    rintro rfl
    obtain ⟨b, hb, rfl⟩ := List.mem_map.1 hname'
    have hoption := hshadowed b rfl
    rw [bound?_of_mem_asked hb] at hoption
    cases hoption

/-- Two texts that are no years: only the first is asked for and told, the second may be anything,
and with an option for the birth year the first may be anything. -/
theorem settings_depend_on_asked_both_unusable :
    let env : String → Option String := fun name =>
      if name = "AGES_BIRTH_YEAR" then some "next" else some "year"
    let env' : String → Option String := fun name =>
      if name = "AGES_BIRTH_YEAR" then some "next" else none
    let o : Options := { format := .json }
    let overridden : Options := { birthYear := some 1990 }
    o.askedNames env = ["AGES_BIRTH_YEAR"] ∧
    (∃ f reason, o.settings (boundTexts env) = .error f ∧
      f.exitError = ⟨2, "Invalid AGES_BIRTH_YEAR='next': " ++ reason⟩) ∧
    o.settings (boundTexts env') = o.settings (boundTexts env) ∧
    overridden.settings (boundTexts (Function.update env "AGES_BIRTH_YEAR" (some "2000"))) =
      overridden.settings (boundTexts env) := by
  intro env env' o overridden
  obtain ⟨-, -, -, hfails, htold, -, hagree, -⟩ := settings_depend_on_asked o env
  obtain ⟨-, -, -, -, -, -, -, hshadowed⟩ := settings_depend_on_asked overridden env
  have hnames : o.askedNames env = ["AGES_BIRTH_YEAR"] := by decide +kernel
  have hno : Unusable (env "AGES_BIRTH_YEAR") :=
    (exists_settleBound_error_iff (b := .birth)).1 ⟨.invalidYear .birth "next" .invalidDigit, rfl⟩
  obtain ⟨f, hf⟩ := hfails.2 ⟨"AGES_BIRTH_YEAR", by rw [hnames]; exact List.mem_singleton_self _, hno⟩
  refine ⟨hnames, ?_, ?_, ?_⟩
  · obtain ⟨b, raw, reason, -, htext, -, herror, hwhich⟩ := htold f hf
    obtain rfl : b = .birth := hwhich.2 ⟨rfl, hno⟩
    cases htext
    exact ⟨f, reason, hf, herror⟩
  · refine (hagree env' fun name hname => ?_).1
    rw [hnames, List.mem_singleton] at hname
    subst hname
    rfl
  · refine (hshadowed "AGES_BIRTH_YEAR" (some "2000") fun b hb => ?_).1
    obtain rfl : b = .birth := Bound.variableName_injective hb
    rfl

end Options
end AgeReport
