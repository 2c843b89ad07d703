import AgeReport.Json.Layout
import AgeReport.Number.Decimal
import AgeReport.Output.Writer

/-!
# Writing JSON texts

A JSON text is written part by part, each as soon as it is known and none kept back, so that a list
of any length needs no memory. Every bracket, indent, quote, name and number is a write of its own.
What is remembered between the parts is the depth, and whether the list or object that is being
written has any parts yet, for an empty one is closed on the line on which it was opened.

* `start`, `addPart`, `finish`: the way through a list or an object;
* `object`: an object from its members;
* `write`, `toBytes`: a whole text, to a writer or in memory.
-/

namespace AgeReport.Json

/-- What is remembered between the parts of a text. -/
structure Formatter where
  layout : Layout
  /-- How many brackets are open. -/
  depth : Nat := 0
  /-- Whether a part of the innermost list or object has been completed. -/
  filled : Bool := false
deriving DecidableEq, Repr

/-- A computation that writes a piece of a JSON text. -/
abbrev Serializer (m : Type → Type) := StateT Formatter m

/-- How far a list or an object has been written. -/
inductive Progress
  /-- It was announced as empty and is closed. -/
  | empty
  /-- It has no part yet. -/
  | first
  /-- It has a part. -/
  | rest
deriving DecidableEq, Repr

namespace Serializer

variable {m : Type → Type} [Monad m] [ByteOutput m]

/-- Writes bytes as they are. -/
def emit (bs : Bytes) : Serializer m Unit :=
  StateT.lift (ByteOutput.put bs)

/-- Writes the indent of a line, level by level. -/
def indent : Nat → Serializer m Unit
  | 0 => pure ()
  | n + 1 => do
    emit [0x20, 0x20]
    indent n

/-! ## Brackets and separators -/

/-- Opens a bracket. -/
def openBracket (b : Bracket) : Serializer m Unit := do
  modify fun f => { f with depth := f.depth + 1, filled := false }
  emit [b.opening]

/-- Begins the line of a closing bracket, unless there is nothing before it in its list or
object. -/
def breakLine : Serializer m Unit := do
  let f ← get
  if f.layout = .indented ∧ f.filled = true then do
    emit [0x0A]
    indent f.depth
  else pure ()

/-- Closes a bracket. -/
def closeBracket (b : Bracket) : Serializer m Unit := do
  modify fun f => { f with depth := f.depth - 1 }
  breakLine
  emit [b.closing]

/-- Separates a part from what stands before it. -/
def separate (first : Bool) : Serializer m Unit := do
  let f ← get
  match f.layout with
  | .compact => if first then pure () else emit [0x2C]
  | .indented =>
    emit (if first then [0x0A] else [0x2C, 0x0A])
    indent f.depth

/-- Notes that a part is complete. -/
def endPart : Serializer m Unit :=
  modify fun f => { f with filled := true }

/-! ## Lists and objects -/

/-- Begins a list or an object (`serialize_seq`, `serialize_struct`); one that is announced without
parts is closed at once. -/
def start (b : Bracket) (announced : Option Nat) : Serializer m Progress := do
  openBracket b
  if announced = some 0 then
    closeBracket b
    return .empty
  else return .first

/-- Writes a part of a list or an object. -/
def addPart (p : Progress) (part : Serializer m Unit) : Serializer m Progress := do
  separate (p == .first)
  part
  endPart
  return .rest

/-- Finishes a list or an object. -/
def finish (b : Bracket) : Progress → Serializer m Unit
  | .empty => pure ()
  | _ => closeBracket b

/-! ## Values -/

/-- Writes an integer. -/
def integer (n : Int) : Serializer m Unit :=
  emit (Decimal.bytes n)

/-- Writes a string that needs no escapes. -/
def string (s : String) : Serializer m Unit := do
  emit [0x22]
  emit (Text.bytes s)
  emit [0x22]

/-- Writes a member of an object: its name and its value. -/
def member (name : String) (value : Serializer m Unit) : Serializer m Unit := do
  string name
  emit (← get).layout.colon
  value

/-- Writes an object with the given members. -/
def object (members : List (String × Serializer m Unit)) : Serializer m Unit := do
  let p ← start .object (some members.length)
  finish .object (← members.foldlM (fun p m => addPart p (member m.1 m.2)) p)

/-! ## Whole texts -/

/-- Writes a text in a layout (`to_writer_pretty` if it is indented). -/
def write (l : Layout) (text : Serializer m Unit) : m Unit :=
  text.run' { layout := l }

/-- The bytes of a text in a layout. -/
def toBytes (l : Layout) (text : Serializer InMemory Unit) : Bytes :=
  InMemory.bytes (text.write l)

end Serializer
end AgeReport.Json
