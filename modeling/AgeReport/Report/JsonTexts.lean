import AgeReport.Json.Serializer
import AgeReport.Span.Cursor

/-!
# The report and the export as JSON

How an entry, a span, the entries of a span and the export are written as JSON. The export names
the tool and holds the bounds beside the entries, so that the span can be read back from it.

* `ListReceiver`: what a list of entries can be given to;
* `YearSpan.sendEntries`: the entries, announced by their number and given one at a time;
* `YearSpan.serializeEntries`: the same to a serializer, as an array;
* `YearSpan.serializeExport`: the export, the same array inside an object.
-/

namespace AgeReport

open Json Json.Serializer

/-- The name of the program, and the `tool` of an export. -/
def toolName : String := "ages"

/-! ## Lists of entries -/

/-- Computations that take a list of entries: its number first, if it is known, then the entries one
by one. A list in progress is known by a `π`. -/
class ListReceiver (m : Type → Type) (π : outParam Type) where
  /-- Begins a list, announced by a number of entries (`serialize_seq`). -/
  announce : Option Nat → m π
  /-- Takes an entry (`serialize_element`). -/
  element : π → AgeEntry → m π
  /-- Ends a list (`end`). -/
  finish : π → m Unit

/-- Gives the entries of a span to a receiver, announced by the length of the span: the `serialize`
of `SpanEntries`. -/
def YearSpan.sendEntries {m : Type → Type} {π : Type} [Monad m] [ListReceiver m π] (s : YearSpan) :
    m Unit := do
  let p ← ListReceiver.announce (some s.length.toNat)
  ListReceiver.finish (← s.foldEntries ListReceiver.element p)

/-! ## Texts -/

variable {m : Type → Type} [Monad m] [ByteOutput m]

/-- Writes an entry as an object. -/
def AgeEntry.serialize (e : AgeEntry) : Serializer m Unit :=
  object [("year", integer e.year.toInt), ("age", integer e.age.toInt)]

/-- A serializer takes entries as the elements of an array. -/
instance : ListReceiver (Serializer m) Progress where
  announce := start .list
  element p e := addPart p e.serialize
  finish := Serializer.finish .list

namespace YearSpan

/-- The members for the two bounds. -/
def boundMembers (s : YearSpan) : List (String × Serializer m Unit) :=
  [("birth_year", integer s.birthYear.toInt), ("current_year", integer s.currentYear.toInt)]

/-- Writes the bounds as an object. -/
def serialize (s : YearSpan) : Serializer m Unit :=
  object s.boundMembers

/-- Writes the entries as an array (`SpanEntries`). -/
def serializeEntries (s : YearSpan) : Serializer m Unit :=
  s.sendEntries

/-- Writes the export: the tool, the bounds and the entries (`ExportFile`). -/
def serializeExport (s : YearSpan) : Serializer m Unit :=
  object (("tool", string toolName) :: s.boundMembers ++ [("entries", s.serializeEntries)])

/-- The bounds as a JSON text. -/
def json (l : Layout) (s : YearSpan) : Bytes :=
  toBytes l s.serialize

/-- The export as a JSON text. -/
def exportJson (l : Layout) (s : YearSpan) : Bytes :=
  toBytes l s.serializeExport

end YearSpan
end AgeReport
