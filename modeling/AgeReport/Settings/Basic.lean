import AgeReport.Report.Write
import AgeReport.Text.Blank

/-!
# Settings of a run

What the command line gives, and the settings that a run works with. Each bound comes from its
option, else from its environment variable, else it has its standard value. The environment is
asked bound by bound, the birth year first, and never for a bound whose option is given.

* `run_resolveBound`: a bound with an option is settled without asking;
* `run_bind`: after a failure nothing more is asked;
* `settings_eq`: the bounds are settled one after the other.
-/

namespace AgeReport

/-- The values of the command line (`Cli`). -/
structure Options where
  birthYear : Option Int32 := none
  currentYear : Option Int32 := none
  format : OutputFormat := .text
  exportPath : Option Bytes := none
deriving DecidableEq, Repr

/-- The option for a bound. -/
def Options.bound? (o : Options) : Bound → Option Int32
  | .birth => o.birthYear
  | .current => o.currentYear

/-- The settings of one run (`ReportConfig`). -/
structure RunSettings where
  span : YearSpan := .standard
  format : OutputFormat := .text
  exportPath : Option Bytes := none
deriving DecidableEq, Repr

/-- The year that a text of the environment stands for; blanks around it do not matter. -/
def readYear (raw : String) : Except NumeralFault Int32 :=
  (Numeral.read .year (Text.trim raw.toList)).map Int32.ofInt

/-- The value of a bound that has no option, given the text of its variable. -/
def settleBound (b : Bound) : Option String → Except Failure Int32
  | none => .ok b.standard
  | some raw => (readYear raw).mapError (.invalidYear b raw)

/-- A computation that may fail and that keeps the list of the bounds it has asked for. -/
abbrev Asking := ExceptT Failure (StateM (List Bound))

/-- Asks the environment for the text of a bound's variable. -/
def ask (lookup : Bound → Option String) (b : Bound) : Asking (Option String) := do
  modify (· ++ [b])
  return lookup b

namespace Options

/-- Settles a bound: by its option, else by asking the environment (`resolve_year`). -/
def resolveBound (o : Options) (lookup : Bound → Option String) (b : Bound) : Asking Int32 :=
  match o.bound? b with
  | some year => pure year
  | none => do
    let raw ← ask lookup b
    ExceptT.mk (pure (settleBound b raw))

/-- Settles both bounds, the birth year first (`report_config`). -/
def resolve (o : Options) (lookup : Bound → Option String) : Asking RunSettings := do
  let birthYear ← o.resolveBound lookup .birth
  let currentYear ← o.resolveBound lookup .current
  return ⟨⟨birthYear, currentYear⟩, o.format, o.exportPath⟩

/-- The settings that the options and the environment give. -/
def settings (o : Options) (lookup : Bound → Option String) : Except Failure RunSettings :=
  ((o.resolve lookup).run.run []).1

/-- The bounds that the environment was asked for on the way to the settings, in order. -/
def asked (o : Options) (lookup : Bound → Option String) : List Bound :=
  ((o.resolve lookup).run.run []).2

/-- The value of a bound without a record of what was asked. -/
def boundValue (o : Options) (lookup : Bound → Option String) (b : Bound) :
    Except Failure Int32 :=
  match o.bound? b with
  | some year => .ok year
  | none => settleBound b (lookup b)

theorem run_resolveBound (o : Options) (lookup : Bound → Option String) (b : Bound)
    (before : List Bound) :
    (o.resolveBound lookup b).run.run before =
      (o.boundValue lookup b, if (o.bound? b).isSome then before else before ++ [b]) := by
  unfold resolveBound boundValue
  cases o.bound? b <;> rfl

theorem run_bind {α β : Type} (x : Asking α) (f : α → Asking β) (before : List Bound) :
    (x >>= f).run.run before =
      match x.run.run before with
      | (.error e, asked) => (.error e, asked)
      | (.ok a, asked) => (f a).run.run asked := by
  change ExceptT.bindCont f (x.run.run before).1 (x.run.run before).2 = _
  rcases x.run.run before with ⟨_ | _, _⟩ <;> rfl

theorem run_resolve (o : Options) (lookup : Bound → Option String) (before : List Bound) :
    (o.resolve lookup).run.run before =
      match (o.resolveBound lookup .birth).run.run before with
      | (.error f, asked) => (.error f, asked)
      | (.ok birthYear, asked) =>
        match (o.resolveBound lookup .current).run.run asked with
        | (.error f, asked) => (.error f, asked)
        | (.ok currentYear, asked) =>
          (.ok ⟨⟨birthYear, currentYear⟩, o.format, o.exportPath⟩, asked) := by
  rw [resolve, run_bind]
  rcases (o.resolveBound lookup .birth).run.run before with ⟨_ | birthYear, asked⟩
  · rfl
  · simp only [run_bind]
    rcases (o.resolveBound lookup .current).run.run asked with ⟨_ | _, _⟩ <;> rfl

theorem settings_eq (o : Options) (lookup : Bound → Option String) :
    o.settings lookup = (do
      let birthYear ← o.boundValue lookup .birth
      let currentYear ← o.boundValue lookup .current
      return ⟨⟨birthYear, currentYear⟩, o.format, o.exportPath⟩) := by
  unfold settings
  rw [run_resolve, run_resolveBound]
  cases o.boundValue lookup .birth with
  | error f => rfl
  | ok birthYear =>
    simp only [run_resolveBound]
    cases o.boundValue lookup .current <;> rfl

end Options
end AgeReport
