import AgeReport.Span.Basic

/-!
# The two bounds of a span

A span is set bound by bound: each has an environment variable and a standard value of its own.
-/

namespace AgeReport

/-- One of the two bounds of a span. -/
inductive Bound
  /-- The first year. -/
  | birth
  /-- The end of the span. -/
  | current
deriving DecidableEq, Repr

namespace Bound

/-- The environment variable that sets the bound (`ENV_BIRTH_YEAR`, `ENV_CURRENT_YEAR`). -/
def variableName : Bound → String
  | birth => "AGES_BIRTH_YEAR"
  | current => "AGES_CURRENT_YEAR"

/-- The value of the bound when nothing sets it. -/
def standard : Bound → Int32
  | birth => standardBirthYear
  | current => standardCurrentYear

theorem variableName_injective {a b : Bound} (h : a.variableName = b.variableName) : a = b := by
  cases a <;> cases b <;> first | rfl | exact absurd h (by decide)

end Bound
end AgeReport
