import AgeReport.Proofs.Json.Written
import AgeReport.Report.Write

/-!
# The texts of the report and of the export

The whole text of each output, put together from the entries of the span, and the proof that this
is what the computations of the library write, into whatever they write it.

Results:
* `writes_writeLines`, `writes_serializeEntries`, `writes_serializeExport`: the lines, the array and
  the export.
-/

namespace AgeReport

open Json Json.Serializer

/-! ## Texts -/

/-- An entry as a JSON object at the given depth. -/
def AgeEntry.objectText (l : Layout) (depth : Nat) (e : AgeEntry) : Bytes :=
  l.group .object depth
    [l.member "year" (Decimal.bytes e.year.toInt), l.member "age" (Decimal.bytes e.age.toInt)]

namespace YearSpan

/-- The members for the bounds. -/
def boundTexts (l : Layout) (s : YearSpan) : List Bytes :=
  [l.member "birth_year" (Decimal.bytes s.birthYear.toInt),
    l.member "current_year" (Decimal.bytes s.currentYear.toInt)]

/-- The bounds as a JSON object. -/
def objectText (l : Layout) (s : YearSpan) : Bytes :=
  l.group .object 0 (s.boundTexts l)

/-- The entries as a JSON array at the given depth. -/
def arrayText (l : Layout) (depth : Nat) (s : YearSpan) : Bytes :=
  l.group .list depth (s.entries.map (AgeEntry.objectText l (depth + 1)))

/-- The export without the newline at its end. -/
def exportText (l : Layout) (s : YearSpan) : Bytes :=
  l.group .object 0 (l.member "tool" (quoted toolName) :: s.boundTexts l ++
    [l.member "entries" (s.arrayText l 1)])

/-- The entries as lines. -/
def linesText (s : YearSpan) : Bytes :=
  s.entries.flatMap fun e => e.line ++ [0x0A]

/-- The report in a format. -/
def reportText (s : YearSpan) : OutputFormat → Bytes
  | .text => s.linesText
  | .json => s.arrayText .indented 0 ++ [0x0A]

end YearSpan

/-! ## What is written -/

section Written

variable {m : Type → Type} [Monad m] [ByteOutput m] [LawfulMonad m] {l : Layout} {d : Nat}

theorem placed_entry (e : AgeEntry) :
    Placed (e.serialize : Serializer m Unit) l d (e.objectText l d) :=
  placed_object [("year", integer e.year.toInt, Decimal.bytes e.year.toInt),
    ("age", integer e.age.toInt, Decimal.bytes e.age.toInt)] (by simp [placed_integer])

namespace YearSpan

theorem placed_serializeEntries (s : YearSpan) :
    Placed (s.serializeEntries : Serializer m Unit) l d (s.arrayText l d) := by
  unfold serializeEntries sendEntries
  simp only [foldEntries_eq, ← length_entries]
  exact placed_group .list fun e _ => placed_entry e

theorem placed_serialize (s : YearSpan) :
    Placed (s.serialize : Serializer m Unit) l 0 (s.objectText l) :=
  placed_object [("birth_year", integer s.birthYear.toInt, Decimal.bytes s.birthYear.toInt),
    ("current_year", integer s.currentYear.toInt, Decimal.bytes s.currentYear.toInt)]
    (by simp [placed_integer])

theorem placed_serializeExport (s : YearSpan) :
    Placed (s.serializeExport : Serializer m Unit) l 0 (s.exportText l) :=
  placed_object [("tool", string toolName, quoted toolName),
    ("birth_year", integer s.birthYear.toInt, Decimal.bytes s.birthYear.toInt),
    ("current_year", integer s.currentYear.toInt, Decimal.bytes s.currentYear.toInt),
    ("entries", s.serializeEntries, s.arrayText l 1)]
    (by simp [placed_integer, placed_string, placed_serializeEntries])

theorem writes_serializeEntries (s : YearSpan) :
    Writes (s.serializeEntries.write l : m Unit) (s.arrayText l 0) () :=
  s.placed_serializeEntries.writes

theorem writes_serializeExport (s : YearSpan) :
    Writes (s.serializeExport.write l : m Unit) (s.exportText l) () :=
  s.placed_serializeExport.writes

theorem writes_writeLines (s : YearSpan) : Writes (s.writeLines : m Unit) s.linesText () := by
  unfold writeLines
  rw [foldEntries_eq]
  exact writes_foldlM fun e _ => (writes_put e.line).bind (writes_put [0x0A])

end YearSpan
end Written
end AgeReport
