import AgeReport.Number.Decimal
import AgeReport.Output.Writer
import AgeReport.Span.Cursor

/-!
# The report as lines of text

Each entry is one sentence on a line of its own; an empty span has no lines.

* `AgeEntry.line`: the sentence of an entry;
* `YearSpan.writeLines`: the report, one line after the other.
-/

namespace AgeReport

/-- The sentence of an entry, without the end of the line (`format_line`). -/
def AgeEntry.line (e : AgeEntry) : Bytes :=
  Text.bytes "In " ++ Decimal.bytes e.year.toInt ++ Text.bytes " I was " ++
    Decimal.bytes e.age.toInt ++ Text.bytes " years old."

variable {m : Type → Type} [Monad m] [ByteOutput m]

/-- Writes the sentence of an entry and ends its line. -/
def AgeEntry.writeLine (e : AgeEntry) : m Unit := do
  ByteOutput.put e.line
  ByteOutput.put [0x0A]

/-- Writes the lines of a span, as the loop of `write_report` does. -/
def YearSpan.writeLines (s : YearSpan) : m Unit :=
  s.foldEntries (fun _ e => e.writeLine) ()

end AgeReport
