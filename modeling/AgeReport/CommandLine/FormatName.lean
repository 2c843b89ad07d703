import AgeReport.Report.Write
import AgeReport.Text.Utf8

/-!
# Names of the forms of the report

Each form of the report has a name, under which the command line and JSON texts know it, and a
help text.

* `ofName?_name`: a name is read as the form that has it.
-/

namespace AgeReport.OutputFormat

/-- All forms, in the order in which they are offered. -/
def all : List OutputFormat := [text, json]

/-- The form used when nothing else is said. -/
def standard : OutputFormat := text

/-- The name of a form. -/
def name : OutputFormat → String
  | text => "text"
  | json => "json"

/-- The help text of a form. -/
def help : OutputFormat → String
  | text => "One `In <year> I was <age> years old.` line per year"
  | json => "A JSON array of `\x7b \"year\", \"age\" \x7d` objects"

/-- A character with the capital letters from A to Z made small. -/
def foldCase (c : Char) : Char :=
  if 'A' ≤ c ∧ c ≤ 'Z' then Char.ofNat (c.toNat + 32) else c

/-- The form with the given name. -/
def ofName? (s : String) : Option OutputFormat :=
  all.find? fun f => f.name = s

/-- The form with the given name, where capital and small letters from A to Z count as equal. -/
def ofNameFolded? (s : String) : Option OutputFormat :=
  all.find? fun f => f.name.toList = s.toList.map foldCase

/-- What is said of a name that no form has. -/
def unknownName (s : String) : String :=
  "invalid variant: " ++ s

theorem ofName?_name (f : OutputFormat) : ofName? f.name = some f := by
  cases f <;> decide

theorem ofName?_eq_some_iff {s : String} {f : OutputFormat} :
    ofName? s = some f ↔ s = f.name := by
  constructor
  · intro h
    have := List.find?_some h
    exact (of_decide_eq_true this).symm
  · rintro rfl
    exact ofName?_name f

end AgeReport.OutputFormat
