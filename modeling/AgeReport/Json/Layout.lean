import AgeReport.Text.Utf8

/-!
# Layouts of JSON texts

A JSON text is laid out without any space, or with every member and element on a line of its own,
two spaces deeper than what encloses it, and a space after each colon.
-/

namespace AgeReport.Json

/-- How the parts of a JSON text are separated. -/
inductive Layout
  /-- No spaces and no lines. -/
  | compact
  /-- A line for each part, two spaces a level. -/
  | indented
deriving DecidableEq, Repr

/-- What separates a name from its value. -/
def Layout.colon : Layout → Bytes
  | compact => [0x3A]
  | indented => [0x3A, 0x20]

/-- What encloses the parts of a value. -/
inductive Bracket
  | list
  | object
deriving DecidableEq, Repr

namespace Bracket

/-- The byte that opens a bracket. -/
def opening : Bracket → UInt8
  | list => 0x5B
  | object => 0x7B

/-- The byte that closes a bracket. -/
def closing : Bracket → UInt8
  | list => 0x5D
  | object => 0x7D

end Bracket
end AgeReport.Json
