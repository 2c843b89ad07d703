import AgeReport.Proofs.EnvFile.ZeroBytes
import AgeReport.Proofs.Run.Pipeline

/-!
# The layers of the settings of a run

A year comes from its option, else from the environment, else from the first assignment to its
variable in the nearest settings file, else it is the standard one. A run gives the settings file
to the environment before it asks for any year, line by line; here this is shown to come to the
layers, whatever the file and the environment hold. The only exception is a value that the system
refuses, which takes a zero byte in the file: it crashes the run before any year is asked for.

Results:
* `run_of_refused_assignment`, `run_of_taken`: a run, by what becomes of its settings file.
* `run_layers`: the whole run, and what has no part in it.
* `run_environment_year`: what becomes of a year that the environment sets.
-/

namespace AgeReport

variable {i : Invocation} {fs : FileSystem} {o : Options}

/-- The assignments that a run reads from the nearest settings file, if there is one. -/
def Invocation.assignments (i : Invocation) (fs : FileSystem) : List EnvFile.Assignment :=
  match fs.nearestFile? settingsFileName i.cwd with
  | none => []
  | some file => EnvFile.assignments i.environment file

/-- What becomes of the environment when the settings file is read. -/
theorem loadedEnvironment_eq (i : Invocation) (fs : FileSystem) :
    i.loadedEnvironment fs = EnvFile.offerAll i.environment (i.assignments fs) := by
  rw [Invocation.loadedEnvironment, Invocation.assignments]
  cases fs.nearestFile? settingsFileName i.cwd with
  | none => rfl
  | some file => exact EnvFile.load_eq_offerAll i.environment file

/-- The system refuses an assignment that a run reads. -/
def Invocation.Refuses (i : Invocation) (fs : FileSystem) (a : EnvFile.Assignment) : Prop :=
  EnvFile.Refused i.environment (i.assignments fs) a

/-- The settings file of a run cannot be loaded exactly if one of its assignments is refused. -/
theorem loadedEnvironment_eq_error_iff {r : Environment.Refusal} :
    i.loadedEnvironment fs = .error r ↔ ∃ a, i.Refuses fs a ∧ r = a.refusal := by
  unfold Invocation.loadedEnvironment Invocation.Refuses Invocation.assignments
  cases fs.nearestFile? settingsFileName i.cwd with
  | none => simp [Environment.withSettings, EnvFile.Refused]
  | some file => exact EnvFile.load_eq_error_iff

/-- A run at whose settings file something is refused crashes. -/
theorem run_of_refused_assignment {a : EnvFile.Assignment}
    (ho : Options.ofArguments i.arguments = .ok o) (ha : i.Refuses fs a) :
    run i fs = (⟨101, [], i.crashReport a.refusal.message⟩, fs) :=
  run_of_crash ho (loadedEnvironment_eq_error_iff.2 ⟨a, ha, rfl⟩)

/-- A run at whose settings file nothing is refused works with the texts chosen by layers. -/
theorem run_of_taken (ho : Options.ofArguments i.arguments = .ok o)
    (htaken : ∀ a, ¬ i.Refuses fs a) :
    run i fs = i.conclude fs (o.settings (o.chosenText? i.environment (i.assignments fs))) := by
  cases hload : i.loadedEnvironment fs with
  | error r =>
    obtain ⟨a, ha, -⟩ := loadedEnvironment_eq_error_iff.1 hload
    exact absurd ha (htaken a)
  | ok e => rw [run_of_loaded ho hload, o.settings_offerAll (loadedEnvironment_eq i fs ▸ hload)]

/-- Without zero bytes in the settings file and in the environment nothing is refused. -/
theorem not_refuses_of_clean (henv : ∀ v ∈ i.environment.entries, 0 ∉ v.2)
    (hclean : ∀ file, fs.nearestFile? settingsFileName i.cwd = some file → 0 ∉ file)
    (a : EnvFile.Assignment) : ¬ i.Refuses fs a := by
  unfold Invocation.Refuses Invocation.assignments
  cases hfile : fs.nearestFile? settingsFileName i.cwd with
  | none => simp [EnvFile.Refused]
  | some file => exact EnvFile.not_refused_of_clean henv (hclean file hfile) a

/-- The year that settings have for a bound, by the text that was chosen for it. -/
theorem year_of_chosenText? {e : Environment} {given : List EnvFile.Assignment} {r : RunSettings}
    (h : o.settings (o.chosenText? e given) = .ok r) (b : Bound) :
    (∀ y, o.bound? b = some y → r.year b = y) ∧
    (∀ raw, o.chosenText? e given b = some raw →
      Numeral.Spells (Text.trim raw.toList) (r.year b).toInt) ∧
    (o.bound? b = none → o.chosenText? e given b = none → r.year b = b.standard) := by
  obtain ⟨hvalue, -⟩ := Options.settings_eq_ok_iff.1 h
  have hb := hvalue b
  refine ⟨?_, ?_, ?_⟩
  · intro y hy
    rw [Options.boundValue_of_some hy] at hb
    exact (Except.ok.inj hb).symm
  · intro raw hraw
    cases ho : o.bound? b with
    | some y => simp [Options.chosenText?, ho] at hraw
    | none =>
      rw [Options.boundValue_of_none ho, hraw] at hb
      exact settleBound_eq_ok_iff.1 hb
  · intro ho hnone
    rw [Options.boundValue_of_none ho, hnone] at hb
    exact (Except.ok.inj hb).symm

/-- **A year that the environment sets.** If the value of the variable is a text, the run works
with the year that the text spells, or it ends with code 2, with nothing on standard output and
the files as they were: no other year takes its place. A value that is no text counts as absent,
so that the settings file or the standard year do take its place. Only a settings file that gives
another variable a value with a zero byte crashes the run before the year is read, again with
nothing on standard output and the files as they were. -/
theorem run_environment_year (i : Invocation) (fs : FileSystem)
    (ho : Options.ofArguments i.arguments = .ok o) {b : Bound} (hb : o.bound? b = none)
    {value : Bytes} (hvalue : i.environment.value? b.variableName = some value) :
    let chosen := o.chosenText? i.environment (i.assignments fs)
    (∀ a, i.Refuses fs a →
      (run i fs).1.code = 101 ∧ (run i fs).1.stdout = [] ∧ (run i fs).2 = fs) ∧
    ((∀ a, ¬ i.Refuses fs a) →
      (∀ raw, value = Text.bytes raw →
        (∃ y r, Numeral.Spells (Text.trim raw.toList) y.toInt ∧ o.settings chosen = .ok r ∧
          r.year b = y ∧ run i fs = r.outcome i fs) ∨
        ((run i fs).1.code = 2 ∧ (run i fs).1.stdout = [] ∧ (run i fs).2 = fs)) ∧
      ((∀ raw, value ≠ Text.bytes raw) →
        chosen b = EnvFile.firstValue? (i.assignments fs) b.variableName ∧
        run i fs = i.conclude fs (o.settings chosen))) := by
  intro chosen
  have hchosen : chosen b = _ := Options.chosenText?_of_none hb (i.assignments fs)
  have htext : i.environment.boundText? b = Text.text? value := by
    rw [Environment.boundText?, Environment.text?, hvalue, Option.bind_some]
  refine ⟨fun a ha => ?_, fun htaken => ?_⟩
  · rw [run_of_refused_assignment ho ha]
    exact ⟨rfl, rfl, rfl⟩
  have hrun : run i fs = i.conclude fs (o.settings chosen) := run_of_taken ho htaken
  constructor
  · rintro raw rfl
    rw [htext, Text.text?_bytes, Option.some_or] at hchosen
    cases hs : o.settings chosen with
    | ok r =>
      rw [hs] at hrun
      obtain ⟨-, hspells, -⟩ := year_of_chosenText? hs b
      exact .inl ⟨r.year b, r, hspells raw hchosen, rfl, rfl, hrun⟩
    | error f =>
      rw [hs] at hrun
      have hcode := Options.exitCode_of_settings hs
      rw [hrun]
      exact .inr ⟨hcode, rfl, rfl⟩
  · intro hnone
    have htext' : Text.text? value = none := by
      refine Option.eq_none_iff_forall_ne_some.2 fun raw hraw => ?_
      exact hnone raw (Text.text?_eq_some_iff.1 hraw)
    rw [htext, htext', Option.none_or] at hchosen
    exact ⟨hchosen, hrun⟩

/-- The birth year has a blank before it, and is the one that the run works with. -/
theorem run_environment_year_blank :
    let i : Invocation :=
      { arguments := [Text.bytes "-c2011"], cwd := [],
        environment := ⟨[("AGES_BIRTH_YEAR", Text.bytes " 2010")]⟩ }
    run i .empty = RunSettings.outcome ⟨⟨2010, 2011⟩, .text, none⟩ i .empty := by
  intro i
  let o : Options := { currentYear := some 2011 }
  have ho : Options.ofArguments i.arguments = .ok o := by decide +kernel
  have hs : o.settings (o.chosenText? i.environment (i.assignments .empty)) =
      .ok ⟨⟨2010, 2011⟩, .text, none⟩ := by decide +kernel
  have hcode : (run i .empty).1.code = 0 := by decide +kernel
  have htaken : ∀ a, ¬ i.Refuses .empty a := by
    refine not_refuses_of_clean (by decide) ?_
    rintro file ⟨⟩
  obtain ⟨-, hyear⟩ := run_environment_year i .empty ho (b := .birth) rfl rfl
  obtain ⟨htext, -⟩ := hyear htaken
  rcases htext " 2010" rfl with ⟨y, r, -, hr, -, hrun⟩ | ⟨hbad, -⟩
  · rw [hs] at hr
    cases hr
    exact hrun
  · rw [hcode] at hbad
    cases hbad

/-- A birth year that is no text does not end the run: the standard year takes its place. -/
theorem run_environment_year_not_text :
    let i : Invocation :=
      { arguments := [Text.bytes "-c2000"], cwd := [],
        environment := ⟨[("AGES_BIRTH_YEAR", [0xFF])]⟩ }
    (∃ o, Options.ofArguments i.arguments = .ok o ∧ o.bound? .birth = none) ∧
      i.environment.value? Bound.birth.variableName = some [0xFF] ∧
      (∀ raw, [0xFF] ≠ Text.bytes raw) ∧
      (run i .empty).1 = ⟨0, Text.bytes "In 1999 I was 0 years old.\n", []⟩ := by
  intro i
  refine ⟨⟨{ currentYear := some 2000 }, by decide +kernel, rfl⟩, rfl, ?_, by decide +kernel⟩
  intro raw hraw
  have hnone : Text.text? [0xFF] = none := by decide +kernel
  rw [hraw, Text.text?_bytes] at hnone
  cases hnone

end AgeReport
