import AgeReport.CommandLine.FormatName
import AgeReport.Settings.Bound

/-!
# Switches of the command line

The names that may follow `--` or `-`: four options, which take a value, and the requests for help
and for the version, which take none. Their names and help texts are data here, from which the
reading of arguments, the messages and the help are all made.

* `ofLong?_long`: a long name is read as the switch that has it;
* `long_injective`: no two switches share one.
-/

namespace AgeReport.CommandLine

/-- An option, which takes a value. -/
inductive Opt
  /-- A bound of the span. -/
  | year (bound : Bound)
  /-- The form of the report. -/
  | format
  /-- Where the export goes. -/
  | exportPath
deriving DecidableEq, Repr

/-- A name that the command line knows. -/
inductive Switch
  | option (opt : Opt)
  | help
  | version
deriving DecidableEq, Repr

/-- All options, in the order in which they are listed. -/
def Opt.all : List Opt := [.year .birth, .year .current, .format, .exportPath]

namespace Switch

/-- All switches, in the order in which they are listed. -/
def all : List Switch := Opt.all.map .option ++ [help, version]

/-- The name that follows `--`. -/
def long : Switch → String
  | option (.year .birth) => "birth-year"
  | option (.year .current) => "current-year"
  | option .format => "format"
  | option .exportPath => "export"
  | help => "help"
  | version => "version"

/-- The letter that follows `-`, if there is one. -/
def short? : Switch → Option Char
  | option (.year .birth) => some 'b'
  | option (.year .current) => some 'c'
  | option _ => none
  | help => some 'h'
  | version => some 'V'

/-- What stands for the value of an option. -/
def valueName? : Switch → Option String
  | option (.year _) => some "YEAR"
  | option .format => some "FORMAT"
  | option .exportPath => some "JSON"
  | help => none
  | version => none

/-- How messages name a switch, with the name of its value. -/
def label (s : Switch) : String :=
  "--" ++ s.long ++
    match s.valueName? with
    | some v => " <" ++ v ++ ">"
    | none => ""

/-- The switch with the given long name. -/
def ofLong? (name : String) : Option Switch :=
  all.find? fun s => s.long = name

/-- The switch with the given letter. -/
def ofShort? (letter : Char) : Option Switch :=
  all.find? fun s => s.short? = some letter

theorem ofLong?_long (s : Switch) : ofLong? s.long = some s := by
  rcases s with (b | _ | _) | _ | _ <;> first | decide | (cases b <;> decide)

theorem long_injective {s t : Switch} (h : s.long = t.long) : s = t := by
  have := ofLong?_long s
  rw [h, ofLong?_long t] at this
  exact (Option.some.inj this).symm

end Switch

/-- How messages name an option. -/
def Opt.label (o : Opt) : String :=
  (Switch.option o).label

end AgeReport.CommandLine
