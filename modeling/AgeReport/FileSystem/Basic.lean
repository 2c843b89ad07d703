import AgeReport.Output.Buffered
import AgeReport.Text.Utf8

/-!
# File systems

A tree of directories, files and devices, without links. A place in it is given by the names on
the way from it up to the root; what stands at each place is the whole state.

* `node?_put_self`, `node?_put_of_ne`: putting something at a place changes that place only;
* `put_comm`: at different places the order does not matter.
-/

namespace AgeReport

/-- A place, as the names from its own up to the one below the root. -/
abbrev Location := List Bytes

/-- What stands at a place. -/
inductive Node
  | directory
  | file (content : Bytes)
  | device (medium : Medium)
deriving DecidableEq, Repr

/-- A tree, by what stands at each place. -/
@[ext]
structure FileSystem where
  node? : Location → Option Node

namespace FileSystem

/-- A root without anything in it. -/
def empty : FileSystem := ⟨fun place => if place = [] then some .directory else none⟩

/-- Puts something at a place. -/
def put (fs : FileSystem) (place : Location) (node : Node) : FileSystem :=
  ⟨fun p => if p = place then some node else fs.node? p⟩

/-- Whether a directory stands at a place. -/
def isDirectory (fs : FileSystem) (place : Location) : Bool :=
  fs.node? place = some .directory

theorem node?_put_self (fs : FileSystem) (place : Location) (node : Node) :
    (fs.put place node).node? place = some node := by
  simp [put]

theorem node?_put_of_ne (fs : FileSystem) {place other : Location} (h : other ≠ place)
    (node : Node) : (fs.put place node).node? other = fs.node? other := by
  simp [put, h]

theorem put_put_self (fs : FileSystem) (place : Location) (a b : Node) :
    (fs.put place a).put place b = fs.put place b := by
  ext1
  funext p
  by_cases h : p = place <;> simp [put, h]

theorem put_comm (fs : FileSystem) {p q : Location} (h : p ≠ q) (a b : Node) :
    (fs.put p a).put q b = (fs.put q b).put p a := by
  ext1
  funext r
  by_cases hp : r = p
  · subst hp
    simp [put, h]
  · by_cases hq : r = q <;> simp [put, hp, hq, h.symm]

end FileSystem
end AgeReport
