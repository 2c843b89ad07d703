import AgeReport.Failure
import AgeReport.Report.JsonTexts
import AgeReport.Settings.Basic
import AgeReport.Text.Quoted

/-!
# Descriptions of values

The texts that show a value with its type and the names of its fields, for people who look for a
fault. Texts and paths in them are quoted.
-/

namespace AgeReport

namespace Description

/-- A field with its value. -/
def field (name value : String) : String :=
  name ++ ": " ++ value

/-- A record on one line. -/
def record (name : String) (fields : List String) : String :=
  name ++ " \x7b " ++ ", ".intercalate fields ++ " \x7d"

/-- A record with a line for each field. -/
def tallRecord (name : String) (fields : List String) : String :=
  name ++ " \x7b\n" ++ String.join (fields.map fun f => "    " ++ f ++ ",\n") ++ "\x7d"

/-- A value inside a named wrapping. -/
def wrapped (name value : String) : String :=
  name ++ "(" ++ value ++ ")"

/-- A value that may be absent. -/
def optional {α : Type} (describe : α → String) : Option α → String
  | none => "None"
  | some a => wrapped "Some" (describe a)

/-- A list of values. -/
def list {α : Type} (describe : α → String) (xs : List α) : String :=
  "[" ++ ", ".intercalate (xs.map describe) ++ "]"

/-- An integer. -/
def yearText (y : Int32) : String :=
  Decimal.text y.toInt

/-- A path. -/
def path (bs : Bytes) : String :=
  String.ofList (Text.quoteBytes bs)

end Description

open Description

/-- The description of a span. -/
def YearSpan.describe (s : YearSpan) : String :=
  record "YearSpan"
    [field "birth_year" (yearText s.birthYear), field "current_year" (yearText s.currentYear)]

/-- The description of an entry. -/
def AgeEntry.describe (e : AgeEntry) : String :=
  record "AgeEntry" [field "year" (yearText e.year), field "age" (Decimal.text e.age.toInt)]

/-- The description of the export of a span. -/
def YearSpan.describeExport (s : YearSpan) : String :=
  record "ExportFile"
    [field "tool" (Text.quoted toolName), field "birth_year" (yearText s.birthYear),
      field "current_year" (yearText s.currentYear),
      field "entries" (wrapped "SpanEntries" s.describe)]

/-- The description of a form of the report. -/
def OutputFormat.describe : OutputFormat → String
  | text => "Text"
  | json => "Json"

/-- The description of the values of the command line. -/
def Options.describe (o : Options) : String :=
  record "Cli"
    [field "birth_year" (optional yearText o.birthYear),
      field "current_year" (optional yearText o.currentYear), field "format" o.format.describe,
      field "export" (optional path o.exportPath)]

/-- The description of the settings of a run. -/
def RunSettings.describe (r : RunSettings) : String :=
  record "ReportConfig"
    [field "span" r.span.describe, field "format" r.format.describe,
      field "export" (optional path r.exportPath)]

/-- The fields of an exit code with a message. -/
def ExitError.fields (e : ExitError) : List String :=
  [field "exit_code" (Decimal.text e.exitCode.toNat), field "message" (Text.quoted e.message)]

/-- The description of an exit code with a message, on one line. -/
def ExitError.describe (e : ExitError) : String :=
  record "AppError" e.fields

/-- The description of an exit code with a message, with a line for each part. -/
def ExitError.describeTall (e : ExitError) : String :=
  tallRecord "AppError" e.fields

end AgeReport
