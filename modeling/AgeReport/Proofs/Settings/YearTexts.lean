import AgeReport.Proofs.Number.Faults
import AgeReport.Proofs.Settings.Resolution
import AgeReport.Proofs.Text.Trimming

/-!
# The text of a variable as a year

A bound without an option is read from the text of its variable: blanks around it are dropped, and
the rest has to be a numeral of 32 bits. A text that is none is told with the reason of its first
fault, and as it was before anything was dropped from it.

Results:
* `Numeral.bare_of_spells`: a numeral has no blanks that could be dropped from it.
* `settleBound_eq_error_iff`: the failures, by the faults of what is left of the text.
* `resolveBound_reads_text`: the values and the failures of every text.
-/

namespace AgeReport

namespace Numeral

variable {cs : List Char} {v : Int}

theorem isBlank_of_isDigit {c : Char} (h : (Decimal.digit? c).isSome) :
    Text.isBlank c = false := by
  obtain ⟨d, hd⟩ := Option.isSome_iff_exists.1 h
  obtain ⟨-, hlow, hhigh⟩ := Decimal.digit?_eq_some hd
  simp [Text.isBlank]
  omega

theorem isBlank_of_spells (h : Spells cs v) : ∀ c ∈ cs, Text.isBlank c = false := by
  have hdigits : ∀ {ds}, IsDigits ds → ∀ c ∈ ds, Text.isBlank c = false :=
    fun hds c hc => isBlank_of_isDigit (hds.2 c hc)
  intro c hc
  cases h with
  | plain hds => exact hdigits hds c hc
  | plus hds =>
    rcases List.mem_cons.1 hc with rfl | hc
    · decide
    · exact hdigits hds c hc
  | minus hds =>
    rcases List.mem_cons.1 hc with rfl | hc
    · decide
    · exact hdigits hds c hc

theorem bare_of_spells (h : Spells cs v) : Text.Bare cs :=
  Text.bare_of_forall (isBlank_of_spells h)

end Numeral

variable {o : Options} {b : Bound} {lookup : Bound → Option String} {raw : String} {f : Failure}

theorem readYear_eq_error_iff {fault : NumeralFault} :
    readYear raw = .error fault ↔ Numeral.Faulty .year (Text.trim raw.toList) fault := by
  rw [← Numeral.read_eq_error_iff (by decide), readYear]
  cases Numeral.read .year (Text.trim raw.toList) <;> simp [Except.map]

theorem settleBound_eq_error_iff : settleBound b (some raw) = .error f ↔
    ∃ fault, Numeral.Faulty .year (Text.trim raw.toList) fault ∧ f = .invalidYear b raw fault := by
  simp only [← readYear_eq_error_iff]
  rw [settleBound]
  cases readYear raw with
  | ok y => simp [Except.mapError]
  | error fault => simp [Except.mapError, eq_comm]

namespace Options

/-- **The text of a variable as a year.** What is read is the text without the blanks around it. It
gives a year exactly if it is an optional sign and digits whose value has 32 bits, however many
zeros lead them. Any other text ends the run with code 2 and a message that quotes all of it, with
the reason of its first fault. The decimal text of every year gives that year, blanks around it
apart. -/
theorem resolveBound_reads_text (ho : o.bound? b = none) (hraw : lookup b = some raw) :
    let t := Text.trim raw.toList
    let result := ((o.resolveBound lookup b).run.run []).1
    (Text.Bare t ∧ ∃ before behind,
      raw.toList = before ++ t ++ behind ∧ Text.Blank before ∧ Text.Blank behind) ∧
    (∀ v : Int, (∃ y, result = .ok y ∧ y.toInt = v) ↔
      Numeral.Spells t v ∧ -2147483648 ≤ v ∧ v ≤ 2147483647) ∧
    (∀ fault, result = .error (.invalidYear b raw fault) ↔ Numeral.Faulty .year t fault) ∧
    (∀ f, result = .error f → ∃ fault, f = .invalidYear b raw fault ∧
      f.exitError =
        ⟨2, "Invalid " ++ b.variableName ++ "='" ++ raw ++ "': " ++ fault.message⟩ ∧
      (fault, fault.message) ∈ [
        (.empty, "cannot parse integer from empty string"),
        (.invalidDigit, "invalid digit found in string"),
        (.tooLarge, "number too large to fit in target type"),
        (.tooSmall, "number too small to fit in target type")] ∧
      (fault.message = "cannot parse integer from empty string" ↔ t = [])) ∧
    ∀ (y : Int32) (before behind : List Char), Text.Blank before → Text.Blank behind →
      raw.toList = before ++ Decimal.ofInt y.toInt ++ behind → result = .ok y := by
  intro t result
  have hresult : result = settleBound b (some raw) := by
    rw [← hraw, ← boundValue_of_none ho]
    exact congrArg Prod.fst (o.run_resolveBound lookup b [])
  rw [hresult]
  refine ⟨Text.trim_eq_iff.1 rfl, ?_, ?_, ?_, ?_⟩
  · intro v
    constructor
    · rintro ⟨y, hy, rfl⟩
      exact ⟨settleBound_eq_ok_iff.1 hy, Numeral.Bounds.contains_iff.1 (Numeral.contains_toInt y)⟩
    · rintro ⟨hspells, hv⟩
      have hyear := Numeral.toInt_ofInt_of_contains (Numeral.Bounds.contains_iff.2 hv)
      refine ⟨Int32.ofInt v, settleBound_eq_ok_iff.2 ?_, hyear⟩
      rwa [hyear]
  · intro fault
    rw [settleBound_eq_error_iff]
    constructor
    · rintro ⟨fault', hfault, heq⟩
      cases heq
      exact hfault
    · intro hfault
      exact ⟨fault, hfault, rfl⟩
  · intro f hf
    obtain ⟨fault, hfault, rfl⟩ := settleBound_eq_error_iff.1 hf
    refine ⟨fault, rfl, rfl, by cases fault <;> decide, ?_⟩
    rw [← hfault.eq_empty_iff]
    cases fault <;> decide
  · intro y before behind hbefore hbehind heq
    have hspells := Numeral.spells_ofInt y.toInt
    rw [settleBound_eq_ok_iff, heq,
      Text.trim_padded hbefore hbehind (Numeral.bare_of_spells hspells)]
    exact hspells

/-- The least year between blanks, and a text that has left the bounds before the character that is
no digit comes. -/
theorem resolveBound_reads_text_limits :
    let lookup : Bound → Option String
      | .birth => some "\u3000-2147483648\n"
      | .current => some " +2147483650x"
    let result (b : Bound) := ((({} : Options).resolveBound lookup b).run.run []).1
    result .birth = .ok (-2147483648) ∧ ∃ f, result .current = .error f ∧
      f.exitError = ⟨2, "Invalid AGES_CURRENT_YEAR=' +2147483650x': " ++
        "number too large to fit in target type"⟩ := by
  intro lookup result
  have hblank : Text.Blank ['\u3000'] ∧ Text.Blank ['\n'] := by
    constructor <;> exact List.all_eq_true.1 (by decide)
  have hdigits : Numeral.FirstFault .year false "2147483650x".toList .tooLarge :=
    ⟨9, by decide +kernel, by decide +kernel⟩
  have hnone : ∀ b, ({} : Options).bound? b = none := fun b => by cases b <;> rfl
  have hbirth : lookup .birth = some "\u3000-2147483648\n" := rfl
  have hcurrent : lookup .current = some " +2147483650x" := rfl
  obtain ⟨-, -, -, -, hpadded⟩ := resolveBound_reads_text (hnone .birth) hbirth
  obtain ⟨-, -, hfault, htold, -⟩ := resolveBound_reads_text (hnone .current) hcurrent
  have herror := (hfault .tooLarge).2 (.plus hdigits)
  refine ⟨hpadded (-2147483648) ['\u3000'] ['\n'] hblank.1 hblank.2 (by decide +kernel), _,
    herror, ?_⟩
  obtain ⟨fault, heq, htext, -⟩ := htold _ herror
  cases heq
  exact htext

end Options
end AgeReport
