import AgeReport.Output.IoError
import AgeReport.Text.Utf8

/-!
# Writers

A writer takes bytes until they are all taken or an error stops it; what it took before an error
stays taken. Texts are written in many small writes by any computation that has a way to write, so
that one description of a text serves files, sinks and buffers.

* `ByteOutput`, `FlushedOutput`: the computations that can write, and flush what they wrote;
* `Writer`: the states that can be written to.
-/

namespace AgeReport

/-- Computations that can write bytes. -/
class ByteOutput (m : Type → Type) where
  /-- Writes all bytes, or stops. -/
  put : Bytes → m Unit

/-- Computations that can write bytes and pass on what may still be waiting. -/
class FlushedOutput (m : Type → Type) extends ByteOutput m where
  /-- Passes on what may still be waiting, or stops. -/
  flush : m Unit

/-- States that bytes can be written to. -/
class Writer (σ : Type) where
  /-- Writes all bytes, or stops with an error (`write_all`). -/
  writeAll : Bytes → EStateM IoError σ Unit
  /-- Passes on what may still be waiting (`flush`). -/
  flush : EStateM IoError σ Unit

instance {σ : Type} [Writer σ] : ByteOutput (EStateM IoError σ) where
  put := Writer.writeAll

instance {σ : Type} [Writer σ] : FlushedOutput (EStateM IoError σ) where
  flush := Writer.flush

/-- Computations that write to memory, which takes everything. -/
abbrev InMemory := StateM (Array UInt8)

instance : ByteOutput InMemory where
  put bs := modify fun (held : Array UInt8) => held ++ bs

/-- The bytes that a computation writes. -/
def InMemory.bytes (act : InMemory Unit) : Bytes :=
  (act.run #[]).2.toList

end AgeReport
