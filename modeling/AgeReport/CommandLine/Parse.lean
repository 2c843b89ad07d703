import AgeReport.CommandLine.Fault
import AgeReport.Settings.Basic
import AgeReport.Text.Split

/-!
# Reading the command line

Arguments are read from left to right. An option with its value in the same argument is checked at
once; one whose value is the next argument is pending until another option begins, help or the
version is asked for, or the arguments end. Faults of a pending option are therefore not seen when
something unexpected comes before that.

* `parse`: the settings that the arguments make, in order;
* `Options.apply`: what they change in the options of an earlier call;
* `programName`: how the program was called.
-/

namespace AgeReport.CommandLine

/-- What one option of the command line sets. -/
inductive Setting
  | year (bound : Bound) (value : Int32)
  | format (value : OutputFormat)
  | exportPath (value : Bytes)
deriving DecidableEq, Repr

/-- The option that makes a setting. -/
def Setting.opt : Setting → Opt
  | year bound _ => .year bound
  | format _ => .format
  | exportPath _ => .exportPath

/-! ## The forms of an argument -/

/-- The form of an argument, by its beginning. -/
inductive Shape
  /-- Two dashes and nothing more. -/
  | terminator
  /-- Two dashes, a name, and a value behind `=` if there is one. -/
  | long (name : Bytes) (value : Option Bytes)
  /-- One dash and what follows it. -/
  | short (rest : Bytes)
  /-- Anything else. -/
  | word
deriving DecidableEq, Repr

/-- The form of an argument. -/
def shape : Bytes → Shape
  | [0x2D, 0x2D] => .terminator
  | 0x2D :: 0x2D :: rest => let (name, value) := Text.splitOnce 0x3D rest; .long name value
  | 0x2D :: b :: rest => .short (b :: rest)
  | _ => .word

/-- Whether the bytes after a dash look like a number: digits, among which one point may stand that
is not the first byte, and behind that one `e` that is neither the first byte nor the last. -/
def looksNumeric (bs : Bytes) : Bool :=
  let isMark (b : UInt8) : Bool := b == 0x65 || b == 0x45
  let mantissa := bs.takeWhile fun b => !isMark b
  let exponent := bs.dropWhile fun b => !isMark b
  let whole := mantissa.takeWhile Decimal.isDigitByte
  let isMantissa : Bool :=
    match mantissa.dropWhile Decimal.isDigitByte with
    | [] => true
    | b :: fraction => b == 0x2E && !whole.isEmpty && fraction.all Decimal.isDigitByte
  let isExponent : Bool :=
    match exponent with
    | [] => true
    | _ :: digits => !mantissa.isEmpty && !digits.isEmpty && digits.all Decimal.isDigitByte
  isMantissa && isExponent

/-! ## Values -/

/-- Reads the value of a bound: an integer of 64 bits first, and then a year. -/
def readYearValue (b : Bound) (value : Bytes) : Except Fault Int32 :=
  match Text.decode? value with
  | none => .error .notText
  | some cs =>
    match Numeral.read .age cs with
    | .error fault => .error (.yearUnreadable b (String.ofList cs) fault)
    | .ok n =>
      if Numeral.Bounds.year.contains n then .ok (Int32.ofInt n)
      else .error (.yearOutOfRange b (String.ofList cs) n)

/-- Reads the name of a form of the report. -/
def readFormatValue (value : Bytes) : Except Fault OutputFormat :=
  match (Text.text? value).bind OutputFormat.ofName? with
  | some f => .ok f
  | none =>
    if value = [] then .error (.valueMissing .format)
    else .error (.formatUnknown (Text.lossy value))

/-- Reads the value of an option. -/
def Opt.read (o : Opt) (value : Bytes) : Except Fault Setting :=
  match o with
  | .year b => (readYearValue b value).map (.year b)
  | .format => (readFormatValue value).map .format
  | .exportPath =>
    if value = [] then .error (.valueMissing .exportPath) else .ok (.exportPath value)

/-! ## The arguments, one after the other -/

/-- What has been read so far. -/
structure Progress where
  /-- The settings that have been checked, in order. -/
  given : List Setting := []
  /-- An option whose value is in an argument of its own, and that argument once it has come. -/
  pending : Option (Opt × Option Bytes) := none
deriving DecidableEq, Repr

/-- Adds what an option sets, which must have a value, be new, and be readable. -/
def check (given : List Setting) (o : Opt) : Option Bytes → Except Fault (List Setting)
  | none => .error (.valueMissing o)
  | some value =>
    if o ∈ given.map Setting.opt then .error (.repeated o)
    else (o.read value).map (given ++ [·])

namespace Progress

/-- Checks the pending option, if there is one. -/
def settle (p : Progress) : Except Fault (List Setting) :=
  match p.pending with
  | none => .ok p.given
  | some (o, value) => check p.given o value

/-- The options that a message about an unknown name counts as used. A pending option that has its
value is one of them, unless it was given before: then it is left out. -/
def used (p : Progress) : List Opt :=
  let given := p.given.map Setting.opt
  match p.pending with
  | some (o, some _) => if o ∈ given then given.erase o else given ++ [o]
  | _ => given

/-- Begins an option: the pending one is checked first. -/
def beginOption (p : Progress) (o : Opt) (value : Option Bytes) : Except Fault Progress := do
  let given ← p.settle
  match value with
  | none => return ⟨given, some (o, none)⟩
  | some v => return ⟨← check given o (some v), none⟩

/-- Answers a request, unless the pending option has a fault. -/
def request (p : Progress) (answer : Fault) : Except Fault Progress := do
  let _ ← p.settle
  throw answer

/-- Whether the next argument may be a negative number. -/
def awaitsNumber (p : Progress) : Bool :=
  match p.pending with
  | some (.year _, none) => true
  | _ => false

/-- An argument that begins with two dashes and a name. -/
def long (p : Progress) (name : Bytes) (value : Option Bytes) : Except Fault Progress :=
  match (Text.text? name).bind Switch.ofLong?, value with
  | none, _ => .error (.nameUnknown (Text.lossy name) p.used)
  | some (.option o), value => p.beginOption o value
  | some s, some v => .error (.valueUnneeded s (Text.lossy v) (!p.given.isEmpty))
  | some .help, none => p.request (.help true)
  | some .version, none => p.request .version

/-- The value in the argument of a letter: what follows the letter, less one `=`. -/
def attached : Bytes → Option Bytes
  | [] => none
  | 0x3D :: value => some value
  | value => some value

/-- An argument that begins with one dash, where `b` follows the dash. -/
def letter (p : Progress) (b : UInt8) (bs : Bytes) : Except Fault Progress :=
  match Text.next b bs with
  | (.illFormed _, _) => .error (.unexpected ("-" ++ Text.lossy (b :: bs)))
  | (.char c, rest) =>
    match Switch.ofShort? c with
    | none => .error (.unexpected ("-" ++ String.singleton c))
    | some (.option o) => p.beginOption o (attached rest)
    | some .help => p.request (.help false)
    | some .version => p.request .version

/-- An argument that is the value of the pending option, if one awaits its value. -/
def word (p : Progress) (argument : Bytes) : Except Fault Progress :=
  match p.pending with
  | some (o, none) => .ok { p with pending := some (o, some argument) }
  | _ => .error (.unexpected (Text.lossy argument))

/-- One argument that is not the terminator. -/
def step (p : Progress) (argument : Bytes) : Except Fault Progress :=
  match shape argument with
  | .long name value => p.long name value
  | .short (b :: bs) =>
    if p.awaitsNumber && looksNumeric (b :: bs) then p.word argument else p.letter b bs
  | _ => p.word argument

/-- All arguments; nothing may follow the terminator. -/
def scan (p : Progress) : List Bytes → Except Fault Progress
  | [] => .ok p
  | argument :: rest =>
    match shape argument, rest with
    | .terminator, [] => .ok p
    | .terminator, extra :: _ => .error (.unexpected (Text.lossy extra))
    | _, _ => do (← p.step argument).scan rest

end Progress

/-- The settings that the arguments after the program name make. -/
def parse (arguments : List Bytes) : Except Fault (List Setting) := do
  (← Progress.scan {} arguments).settle

/-! ## From settings to options -/

/-- The year set for a bound. -/
def yearOf? (given : List Setting) (b : Bound) : Option Int32 :=
  given.findSome? fun
    | .year b' y => if b' = b then some y else none
    | _ => none

/-- The form of the report that is set. -/
def formatOf? (given : List Setting) : Option OutputFormat :=
  given.findSome? fun
    | .format f => some f
    | _ => none

/-- The path of the export that is set. -/
def exportPathOf? (given : List Setting) : Option Bytes :=
  given.findSome? fun
    | .exportPath p => some p
    | _ => none

end CommandLine

open CommandLine

/-- Options with new settings: what is not set stays, but the form of the report, which has a
standard value, becomes that. -/
def Options.apply (o : Options) (given : List Setting) : Options where
  birthYear := (yearOf? given .birth).or o.birthYear
  currentYear := (yearOf? given .current).or o.currentYear
  format := (formatOf? given).getD .standard
  exportPath := (exportPathOf? given).or o.exportPath

/-- The options that the arguments after the program name give (`try_parse_from` of `Cli`). -/
def Options.ofArguments (arguments : List Bytes) : Except Fault Options :=
  (parse arguments).map ({} : Options).apply

/-- The options of an earlier call after a further command line (`try_update_from`); a fault leaves
them as they are. -/
def Options.update (o : Options) (arguments : List Bytes) : Except Fault Options :=
  (parse arguments).map o.apply

/-! ## The name of the program -/

namespace CommandLine

/-- Splits a path at its slashes. -/
def components (bs : Bytes) : List Bytes :=
  bs.splitOn 0x2F

/-- The last name on a path, where places that only repeat a directory do not count. -/
def fileName? (path : Bytes) : Option Bytes :=
  match ((components path).filter fun c => c != [] && c != [0x2E]).getLast? with
  | none => none
  | some name => if name = [0x2E, 0x2E] then none else some name

/-- The name of the program, from the first argument. -/
def programName (called : Option Bytes) : String :=
  ((called.bind fileName?).bind Text.text?).getD toolName

end CommandLine
end AgeReport
