import AgeReport.Number.Numeral
import AgeReport.Output.IoError
import AgeReport.Settings.Bound

/-!
# Failures of a run

What can end a run, and how it is told: by an exit code that names the stage and a message.

* `Failure`: the causes;
* `ExitError`: an exit code with a message, the form in which every cause is reported;
* `EncodingFault`: what can go wrong while JSON is written.
-/

namespace AgeReport

/-- An exit code with a message (`AppError`). -/
structure ExitError where
  exitCode : UInt8
  message : String
deriving DecidableEq, Repr

/-- A fault met while JSON is written. -/
inductive EncodingFault
  /-- The receiver failed. -/
  | io (error : IoError)
  /-- Something else, with the place in a text that it is about; line 0 stands for no place. -/
  | other (message : String) (line column : Nat)
deriving DecidableEq, Repr

/-! ## Places in messages -/

/-- What stands before and behind the last occurrence of `mark`, which is not empty. -/
def splitAtLast (mark : List Char) : List Char → Option (List Char × List Char)
  | [] => none
  | c :: cs =>
    match splitAtLast mark cs with
    | some (before, behind) => some (c :: before, behind)
    | none => if mark.isPrefixOf (c :: cs) then some ([], (c :: cs).drop mark.length) else none

/-- The value of a text of digits that fits 64 bits. -/
def wordOfDigits? (cs : List Char) : Option Nat :=
  match Numeral.readDigits .word false cs with
  | .ok n => some n.toNat
  | .error _ => none

/-- The message, line and column of a text that ends with a place, as in `… at line 1 column 2`. -/
def placeOf? (cs : List Char) : Option (List Char × Nat × Nat) := do
  let (message, place) ← splitAtLast " at line ".toList cs
  let line := place.takeWhile fun c => (Decimal.digit? c).isSome
  let rest := place.dropWhile fun c => (Decimal.digit? c).isSome
  let mark := " column ".toList
  if mark.isPrefixOf rest then
    return (message, ← wordOfDigits? line, ← wordOfDigits? (rest.drop mark.length))
  else none

namespace EncodingFault

/-- The fault with a message of its own; a place at its end is taken from it. -/
def ofMessage (message : String) : EncodingFault :=
  match placeOf? message.toList with
  | some (cs, line, column) => .other (String.ofList cs) line column
  | none => .other message 0 0

/-- The text of a fault. -/
def text : EncodingFault → String
  | io e => e.text
  | other message line column =>
    if line = 0 then message
    else message ++ s!" at line {line} column {column}"

end EncodingFault

namespace ExitError

/-- Settings that cannot be used (`config`, with `EXIT_CONFIG`). -/
def settings (message : String) : ExitError := ⟨2, message⟩

/-- The report could not be written (`stdout`, with `EXIT_STDOUT`). -/
def report (e : IoError) : ExitError := ⟨3, "Failed to write report: " ++ e.text⟩

/-- The report could not be written as JSON (`encode`, with the same code). -/
def encoding (e : EncodingFault) : ExitError := ⟨3, "Failed to write report JSON: " ++ e.text⟩

/-- The export could not be written (`export`, with `EXIT_EXPORT`). -/
def exporting (message : String) : ExitError := ⟨4, message⟩

end ExitError

/-- What ends a run. -/
inductive Failure
  /-- The environment sets a bound to something that is no year. -/
  | invalidYear (bound : Bound) (raw : String) (fault : NumeralFault)
  /-- The lines of the report, its last newline or its flush failed. -/
  | report (error : IoError)
  /-- The array of the report failed. -/
  | reportJson (error : IoError)
  /-- The export could not be opened for writing. -/
  | createExport (path : Bytes) (error : IoError)
  /-- The export document failed. -/
  | exportJson (error : IoError)
  /-- What waited of the export document at its end failed. -/
  | flushExport (path : Bytes) (error : IoError)
deriving DecidableEq, Repr

/-- How a failure is told. -/
def Failure.exitError : Failure → ExitError
  | invalidYear bound raw fault =>
    .settings ("Invalid " ++ bound.variableName ++ "='" ++ raw ++ "': " ++ fault.message)
  | report e => .report e
  | reportJson e => .encoding (.io e)
  | createExport path e =>
    .exporting ("Failed to create export '" ++ Text.lossy path ++ "': " ++ e.text)
  | exportJson e => .exporting ("Failed to write export JSON: " ++ e.text)
  | flushExport path e =>
    .exporting ("Failed to flush export '" ++ Text.lossy path ++ "': " ++ e.text)

end AgeReport
