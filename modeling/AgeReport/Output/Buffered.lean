import AgeReport.Output.Writer

/-!
# Buffered devices

A device keeps, drops or refuses what is written to it. Writers put a buffer before it, so that
the device sees few large writes: bytes wait in the buffer as long as they fit, and a write that
does not fit into the space left first passes on what waits. An error of the device therefore
shows at the write that overfills the buffer, or at the flush.

* `writeAll_of_le`: bytes that fit only wait.
-/

namespace AgeReport

/-- What becomes of the bytes that a device gets. -/
inductive Medium
  /-- They are kept. -/
  | keeping
  /-- They are dropped. -/
  | discarding
  /-- There is no space for even one. -/
  | full
deriving DecidableEq, Repr

/-- A device and the bytes it has kept. -/
structure Device where
  medium : Medium
  held : Array UInt8 := #[]

/-- Writes bytes to a device; without bytes nothing happens. -/
def Device.write (bs : Bytes) (d : Device) : EStateM.Result IoError Device Unit :=
  if bs = [] then .ok () d
  else
    match d.medium with
    | .keeping => .ok () { d with held := d.held ++ bs }
    | .discarding => .ok () d
    | .full => .error .noSpace d

/-- A device with a buffer before it (`BufWriter`). -/
structure Buffered where
  waiting : Array UInt8 := #[]
  device : Device

namespace Buffered

/-- How many bytes a buffer holds. -/
def capacity : Nat := 8192

/-- Passes on what waits (`flush`). -/
def drain (b : Buffered) : EStateM.Result IoError Buffered Unit :=
  match b.device.write b.waiting.toList with
  | .ok _ d => .ok () ⟨#[], d⟩
  | .error e d => .error e { b with device := d }

/-- Takes bytes into an empty buffer, or straight to the device if there are too many for any
buffer. -/
def refill (bs : Bytes) (b : Buffered) : EStateM.Result IoError Buffered Unit :=
  if bs.length ≤ capacity then .ok () { b with waiting := bs.toArray }
  else
    match b.device.write bs with
    | .ok _ d => .ok () { b with device := d }
    | .error e d => .error e { b with device := d }

/-- Writes bytes (`write_all`): they wait if they fit beside what waits already. -/
def writeAll (bs : Bytes) (b : Buffered) : EStateM.Result IoError Buffered Unit :=
  if b.waiting.size + bs.length ≤ capacity then .ok () { b with waiting := b.waiting ++ bs }
  else
    match b.drain with
    | .ok _ b' => b'.refill bs
    | .error e b' => .error e b'

instance : Writer Buffered where
  writeAll := writeAll
  flush := drain

theorem writeAll_of_le {b : Buffered} {bs : Bytes} (h : b.waiting.size + bs.length ≤ capacity) :
    b.writeAll bs = .ok () { b with waiting := b.waiting ++ bs } := by
  simp [writeAll, h]

end Buffered
end AgeReport
