import AgeReport.Failure
import AgeReport.Number.Shortest
import AgeReport.Report.Write
import AgeReport.CommandLine.FormatName
import AgeReport.Text.Quoted

/-!
# Faults of JSON texts

Why a text is not JSON, or not JSON of the form that is wanted, and where that shows. A reader only
keeps the bytes that it has not read yet, so the place of a fault is the number of unread bytes;
line and column are worked out from the whole text.

* `Fault.place`: lines are counted from 1, columns by the bytes read since the line began;
* `of_bind_eq_ok`, `of_map_eq_ok`: what reads well has read well at each step.
-/

namespace AgeReport.Json

/-- A value of another form than the one wanted. -/
inductive Found
  | null
  | boolean (value : Bool)
  | integer (value : Int)
  | float (value : Float)
  | string (value : String)
  | sequence
  | map

/-- How messages name a value that was not wanted. -/
def Found.describe : Found → String
  | null => "null"
  | boolean true => "boolean `true`"
  | boolean false => "boolean `false`"
  | integer n => "integer `" ++ Decimal.text n ++ "`"
  | float f => "floating point `" ++ Shortest.text f ++ "`"
  | string s => "string " ++ Text.quoted s
  | sequence => "sequence"
  | map => "map"

/-- Why a text cannot be read. -/
inductive Cause
  | endOfValue | endOfList | endOfObject | endOfString
  | colonExpected | listSeparatorExpected | objectSeparatorExpected
  | identExpected | valueExpected
  | invalidEscape | invalidNumber | numberOutOfRange | invalidCodePoint | controlCharacter
  | nameNotString | loneSurrogate | unfinishedEscape
  | trailingComma | trailingCharacters
  | wrongType (found : Found) (expected : String)
  | wrongValue (value : Int) (expected : String)
  | wrongLength (length : Nat) (expected : String)
  | unknownVariant (name : String)
  | missingField (name : String)
  | duplicateField (name : String)

/-- The sorts of causes. -/
inductive CauseSort
  /-- The text is not JSON. -/
  | malformed
  /-- The text is JSON of another form. -/
  | unsuitable
  /-- The text ends too early. -/
  | unfinished
deriving DecidableEq, Repr

namespace Cause

/-- The sort of a cause. -/
def sort : Cause → CauseSort
  | endOfValue | endOfList | endOfObject | endOfString => .unfinished
  | wrongType .. | wrongValue .. | wrongLength .. | unknownVariant _ | missingField _
  | duplicateField _ => .unsuitable
  | _ => .malformed

/-- The wording of a cause. -/
def message : Cause → String
  | endOfValue => "EOF while parsing a value"
  | endOfList => "EOF while parsing a list"
  | endOfObject => "EOF while parsing an object"
  | endOfString => "EOF while parsing a string"
  | colonExpected => "expected `:`"
  | listSeparatorExpected => "expected `,` or `]`"
  | objectSeparatorExpected => "expected `,` or `\x7d`"
  | identExpected => "expected ident"
  | valueExpected => "expected value"
  | invalidEscape => "invalid escape"
  | invalidNumber => "invalid number"
  | numberOutOfRange => "number out of range"
  | invalidCodePoint => "invalid unicode code point"
  | controlCharacter => "control character (\\u0000-\\u001F) found while parsing a string"
  | nameNotString => "key must be a string"
  | loneSurrogate => "lone leading surrogate in hex escape"
  | unfinishedEscape => "unexpected end of hex escape"
  | trailingComma => "trailing comma"
  | trailingCharacters => "trailing characters"
  | wrongType found expected => "invalid type: " ++ found.describe ++ ", expected " ++ expected
  | wrongValue value expected =>
    "invalid value: " ++ (Found.integer value).describe ++ ", expected " ++ expected
  | wrongLength length expected =>
    "invalid length " ++ Decimal.text length ++ ", expected " ++ expected
  | unknownVariant name =>
    "unknown variant `" ++ name ++ "`, expected " ++
      " or ".intercalate (OutputFormat.all.map fun f => "`" ++ f.name ++ "`")
  | missingField name => "missing field `" ++ name ++ "`"
  | duplicateField name => "duplicate field `" ++ name ++ "`"

end Cause

/-- A cause and the number of bytes that were still unread where it showed. -/
structure Fault where
  cause : Cause
  unread : Nat

namespace Fault

/-- A fault that shows before `rest`. -/
def before (rest : Bytes) (cause : Cause) : Fault := ⟨cause, rest.length⟩

/-- A fault that shows at the first byte of `rest`, or at the end if there is none. -/
def atNext (rest : Bytes) (cause : Cause) : Fault := ⟨cause, rest.length - 1⟩

/-- The line of a fault and its column, in the text it was found in. -/
def place (text : Bytes) (f : Fault) : Nat × Nat :=
  let read := text.take (text.length - f.unread)
  (1 + read.count 0x0A, (read.reverse.takeWhile (· != 0x0A)).length)

/-- The message of a fault, with its place. -/
def message (text : Bytes) (f : Fault) : String :=
  let (line, column) := f.place text
  f.cause.message ++ " at line " ++ Decimal.text line ++ " column " ++ Decimal.text column

/-- The fault as one that is met while JSON is written. -/
def toEncodingFault (text : Bytes) (f : Fault) : EncodingFault :=
  let (line, column) := f.place text
  .other f.cause.message line column

end Fault

/-- Reads a value from the beginning of a byte list; answers the value and the rest. -/
abbrev Reader (α : Type) := Bytes → Except Fault (α × Bytes)

theorem of_bind_eq_ok {α β : Type} {x : Except Fault α} {f : α → Except Fault β} {b : β}
    (h : (x >>= f) = .ok b) : ∃ a, x = .ok a ∧ f a = .ok b := by
  cases x with
  | error e => cases h
  | ok a => exact ⟨a, rfl, h⟩

theorem ok_bind {α β : Type} (a : α) (f : α → Except Fault β) : (Except.ok a >>= f) = f a := rfl

theorem of_map_eq_ok {α β : Type} {x : Except Fault α} {f : α → β} {b : β}
    (h : x.map f = .ok b) : ∃ a, x = .ok a ∧ f a = b := by
  cases x with
  | error e => cases h
  | ok a => exact ⟨a, rfl, Except.ok.inj h⟩

end AgeReport.Json
