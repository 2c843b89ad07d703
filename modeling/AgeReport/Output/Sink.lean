import AgeReport.Output.Writer

/-!
# Sinks

A sink keeps what is written to it in memory, up to a limit. It takes bytes call by call: a call
takes at most `chunk` bytes and at most the room that is left, and every `interrupt`-th call is
interrupted and has to be repeated. When no room is left the sink answers its failure, or takes
nothing, which stops the writer just as well. Bytes that fit are always taken first. A sink whose
chunks are empty takes nothing, whatever its room.

* `interrupts_call`: no two calls after one another are interrupted, so repeating comes to an end.
-/

namespace AgeReport

/-- How a sink answers, for good. -/
structure SinkRules where
  /-- The most bytes that one call takes. -/
  chunk : Option Nat := none
  /-- Which calls are interrupted: every one whose number this divides, or none if it is below 2. -/
  interrupt : Nat := 0
  /-- The answer to more bytes than there is room for. -/
  failure : Option IoError := none
  /-- The answer to a flush, if it fails. -/
  flushError : Option IoError := none

/-- A receiver in memory. -/
structure Sink where
  rules : SinkRules := {}
  /-- How many bytes it still takes; `none` for any number. -/
  room : Option Nat := none
  /-- The bytes taken. -/
  held : Array UInt8 := #[]
  /-- How many calls there were. -/
  calls : Nat := 0
  /-- How many flushes there were. -/
  flushes : Nat := 0

namespace Sink

/-- What one call comes to. -/
inductive Reply
  /-- The first bytes were taken, so many. -/
  | took (count : Nat)
  /-- Nothing happened; the call has to be repeated. -/
  | interrupted
  /-- Nothing was taken and nothing will be. -/
  | refused (error : IoError)
deriving DecidableEq, Repr

/-- Whether the next call is interrupted. -/
def interrupts (s : Sink) : Bool :=
  1 < s.rules.interrupt && (s.calls + 1) % s.rules.interrupt == 0

/-- How many of `n` bytes the next call takes. -/
def portion (s : Sink) (n : Nat) : Nat :=
  let n := match s.rules.chunk with
    | none => n
    | some c => min n c
  match s.room with
  | none => n
  | some r => min n r

/-- The answer to bytes of which none are taken. -/
def refusal (s : Sink) : IoError :=
  if s.room = some 0 then s.rules.failure.getD .incomplete else .incomplete

/-- The sink after taking the first `n` of the bytes `bs`. -/
def accept (s : Sink) (bs : Bytes) (n : Nat) : Sink :=
  { s with held := s.held ++ bs.take n, room := s.room.map (· - n) }

/-- One call with the bytes `bs`. -/
def call (s : Sink) (bs : Bytes) : Reply × Sink :=
  let counted := { s with calls := s.calls + 1 }
  if s.interrupts then (.interrupted, counted)
  else if s.portion bs.length = 0 then (.refused s.refusal, counted)
  else (.took (s.portion bs.length), counted.accept bs (s.portion bs.length))

theorem interrupts_succ {s : Sink} (h : s.interrupts = true) :
    { s with calls := s.calls + 1 }.interrupts = false := by
  simp only [interrupts, Bool.and_eq_true, decide_eq_true_eq, beq_iff_eq] at h
  simp [interrupts, Nat.add_mod (s.calls + 1), h.2, Nat.mod_eq_of_lt h.1]

theorem interrupts_call {s s' : Sink} {bs : Bytes} (h : s.call bs = (.interrupted, s')) :
    s.interrupts = true ∧ s'.interrupts = false := by
  unfold call at h
  split at h
  · rename_i hi
    simp only [Prod.mk.injEq, true_and] at h
    exact ⟨hi, h ▸ interrupts_succ hi⟩
  · split at h <;> simp at h

theorem took_call {s s' : Sink} {bs : Bytes} {n : Nat} (h : s.call bs = (.took n, s')) :
    0 < n ∧ n ≤ bs.length := by
  unfold call at h
  split at h
  · simp at h
  · split at h
    · simp at h
    · rename_i hn
      simp only [Prod.mk.injEq, Reply.took.injEq] at h
      refine ⟨by omega, ?_⟩
      rw [← h.1, portion]
      split <;> split <;> omega

/-- Calls with the bytes that are left, until none are left or the sink refuses them. -/
def writeAll (bs : Bytes) (s : Sink) : EStateM.Result IoError Sink Unit :=
  if bs = [] then .ok () s
  else
    match _h : s.call bs with
    | (.took n, s') => writeAll (bs.drop n) s'
    | (.interrupted, s') => writeAll bs s'
    | (.refused e, s') => .error e s'
termination_by (bs.length, if s.interrupts then 1 else 0)
decreasing_by
  · have := took_call _h
    apply Prod.Lex.left
    simp only [List.length_drop]
    omega
  · have := interrupts_call _h
    apply Prod.Lex.right
    simp [this]

/-- Counts the flush and answers its error, if it has one. -/
def flush (s : Sink) : EStateM.Result IoError Sink Unit :=
  let counted := { s with flushes := s.flushes + 1 }
  match s.rules.flushError with
  | none => .ok () counted
  | some e => .error e counted

instance : Writer Sink where
  writeAll := writeAll
  flush := flush

end Sink
end AgeReport
