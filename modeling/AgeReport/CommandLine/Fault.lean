import AgeReport.CommandLine.Switch
import AgeReport.Number.Numeral
import AgeReport.Text.Similarity

/-!
# What ends the reading of the command line

Requests for help or the version, and the faults of a command line, with their messages. Messages
name the program as it was called, and leave out control characters.

* `exitCode_eq_zero_iff`: the exit code is 0 for the requests and 2 for the faults.
-/

namespace AgeReport.CommandLine

/-- Why no options come of a command line: the errors of `try_parse_from`, requests among them. -/
inductive Fault
  /-- Help was asked for, in the long or in the short form. -/
  | help (long : Bool)
  /-- The version was asked for. -/
  | version
  /-- An option has no value, or an empty one where that is none. -/
  | valueMissing (opt : Opt)
  /-- The value of a bound is no integer. -/
  | yearUnreadable (bound : Bound) (value : String) (fault : NumeralFault)
  /-- The value of a bound is an integer but no year. -/
  | yearOutOfRange (bound : Bound) (value : String) (number : Int)
  /-- No form of the report has this name. -/
  | formatUnknown (value : String)
  /-- An option is there for a second time. -/
  | repeated (opt : Opt)
  /-- A value that has to be a text is none. -/
  | notText
  /-- A switch that takes no value has got one; `checked` says whether an option came before. -/
  | valueUnneeded (switch : Switch) (value : String) (checked : Bool)
  /-- An argument that nothing awaits. -/
  | unexpected (argument : String)
  /-- A long name that no switch has, after the given options. -/
  | nameUnknown (name : String) (used : List Opt)
deriving DecidableEq, Repr

namespace Fault

/-- Whether the fault is a request that was answered. -/
def isRequest : Fault → Bool
  | help _ => true
  | version => true
  | _ => false

/-- The exit code of the program. -/
def exitCode (f : Fault) : UInt8 :=
  if f.isRequest then 0 else 2

theorem exitCode_eq_zero_iff (f : Fault) : f.exitCode = 0 ↔ f.isRequest = true := by
  unfold exitCode
  split <;> simp_all

end Fault

/-! ## Help -/

/-- What the program does. -/
def about : String := "Print the age reached in each year of a range"

/-- The version of the program. -/
def versionText : String := "ages 0.1.0\n"

/-- The usage when nothing particular is to be said. -/
def usage (program : String) : String :=
  "Usage: " ++ program ++ " [OPTIONS]"

namespace Switch

/-- The help text of a switch; the one for help points to the other form. -/
def helpText (longForm : Bool) : Switch → String
  | option (.year .birth) =>
    "First year of the range (inclusive). Overrides " ++ Bound.birth.variableName
  | option (.year .current) =>
    "End of the range (exclusive). Overrides " ++ Bound.current.variableName
  | option .format => "Output format on standard output"
  | option .exportPath => "Also write the entries to a JSON file"
  | help =>
    if longForm then "Print help (see a summary with '-h')"
    else "Print help (see more with '--help')"
  | version => "Print version"

/-- Both names of a switch. -/
def invocation (s : Switch) : String :=
  (match s.short? with
    | some c => "-" ++ String.singleton c ++ ", "
    | none => "    ") ++ s.label

/-- The names of all forms, with commas. -/
def formatNames : String :=
  ", ".intercalate (OutputFormat.all.map OutputFormat.name)

/-- A list of what a value may be. -/
def possibleValues : String :=
  "[possible values: " ++ formatNames ++ "]"

/-- The value of the option for the form when it is not given. -/
def defaultValue : String :=
  "[default: " ++ OutputFormat.standard.name ++ "]"

/-- The column at which the short help texts begin, less the margins. -/
def nameWidth : Nat := 25

/-- A switch in the short help: one line. -/
def shortEntry (s : Switch) : String :=
  let padding := String.ofList (List.replicate (nameWidth - s.invocation.length) ' ')
  "  " ++ s.invocation ++ padding ++ "  " ++ s.helpText false ++
    (if s = .option .format then " " ++ defaultValue ++ " " ++ possibleValues else "") ++ "\n"

/-- The margin of the long help texts. -/
def margin : String := "          "

/-- What the long help adds for the form of the report. -/
def formatDetails : String :=
  "\n" ++ margin ++ "Possible values:\n" ++
    String.join
      (OutputFormat.all.map fun f => margin ++ "- " ++ f.name ++ ": " ++ f.help ++ "\n") ++
    margin ++ "\n" ++ margin ++ defaultValue ++ "\n"

/-- A switch in the long help: its names, and below them its text. -/
def longEntry (s : Switch) : String :=
  "  " ++ s.invocation ++ "\n" ++ margin ++ s.helpText true ++ "\n" ++
    (if s = .option .format then formatDetails else "")

end Switch

/-- The help, in the long or in the short form. -/
def helpPage (longForm : Bool) (program : String) : String :=
  about ++ "\n\n" ++ usage program ++ "\n\nOptions:\n" ++
    if longForm then "\n".intercalate (Switch.all.map Switch.longEntry)
    else String.join (Switch.all.map Switch.shortEntry)

/-! ## Messages -/

namespace Fault

/-- The end of every message about a fault. -/
def closing : String := "\n\nFor more information, try '--help'.\n"

/-- A piece of advice. -/
def tip (kind value : String) : String :=
  "\n\n  tip: a similar " ++ kind ++ " exists: '" ++ value ++ "'"

/-- All options as alternatives. -/
def alternatives : String :=
  "<" ++ "|".intercalate (Opt.all.map Opt.label) ++ ">"

/-- The usage after an unknown name: what was used, and what was probably meant. -/
def usageFor (program : String) (used : List Opt) (meant : Option Switch) : String :=
  let labels := ((used.map Switch.option ++ meant.toList).eraseDups).map Switch.label
  if labels = [] then usage program
  else "Usage: " ++ program ++ " " ++ " ".intercalate labels

/-- A value that does not do. -/
def invalidValue (value : String) (opt : Opt) : String :=
  "error: invalid value '" ++ value ++ "' for '" ++ opt.label ++ "'"

/-- The message without its end. -/
def body (program : String) : Fault → String
  | help longForm => helpPage longForm program
  | version => versionText
  | valueMissing opt =>
    "error: a value is required for '" ++ opt.label ++ "' but none was supplied" ++
      if opt = .format then "\n  " ++ Switch.possibleValues else ""
  | yearUnreadable bound value fault => invalidValue value (.year bound) ++ ": " ++ fault.message
  | yearOutOfRange bound value number =>
    invalidValue value (.year bound) ++ ": " ++ Decimal.text number ++ " is not in " ++
      Decimal.text Numeral.Bounds.year.least ++ "..=" ++ Decimal.text Numeral.Bounds.year.greatest
  | formatUnknown value =>
    invalidValue value .format ++ "\n  " ++ Switch.possibleValues ++
      match Text.Similarity.bestMatch OutputFormat.name value OutputFormat.all with
      | some f => tip "value" f.name
      | none => ""
  | repeated opt =>
    "error: the argument '" ++ opt.label ++ "' cannot be used multiple times\n\n" ++ usage program
  | notText =>
    "error: invalid UTF-8 was detected in one or more arguments\n\n" ++ usage program
  | valueUnneeded switch value checked =>
    "error: unexpected value '" ++ value ++ "' for '" ++ switch.label ++
      "' found; no more were expected\n\nUsage: " ++ program ++ " " ++ switch.label ++
      if checked then " " ++ alternatives else ""
  | unexpected argument =>
    "error: unexpected argument '" ++ argument ++ "' found\n\n" ++ usage program
  | nameUnknown name used =>
    let meant := Text.Similarity.bestMatch Switch.long name Switch.all
    "error: unexpected argument '--" ++ name ++ "' found" ++
      (match meant with
        | some s => tip "argument" ("--" ++ s.long)
        | none => "") ++
      "\n\n" ++ usageFor program used meant

/-- Whether a message shows a character: of the control characters of ASCII only the tab, the line
feed, the form feed and the carriage return. -/
def isShown (c : Char) : Bool :=
  0x20 ≤ c.toNat && c.toNat != 0x7F || c == '\t' || c == '\n' || c == '\x0c' || c == '\r'

/-- The message of a fault, or what was asked for, less the characters that are not shown. -/
def message (program : String) (f : Fault) : String :=
  let text := if f.isRequest then f.body program else f.body program ++ closing
  String.ofList (text.toList.filter isShown)

end Fault
end AgeReport.CommandLine
