import AgeReport.Output.Writer

/-!
# What a computation writes

A computation that does nothing but write is known by its bytes and its answer; into how many
writes the bytes are divided is left open. `Writes` composes along `++`, so nothing that is built
from such computations has to be followed write by write again.

Results:
* `Writes.bind`, `writes_foldlM`: one computation after another, and one for each element of a
  list.
* `InMemory.bytes_of_writes`: in memory, the bytes written are the bytes kept.
-/

namespace AgeReport

variable {m : Type → Type} [Monad m] [ByteOutput m] {α β : Type}

/-- Writes byte lists one after the other. -/
def putEach : List Bytes → m Unit
  | [] => pure ()
  | bs :: pieces => do
    ByteOutput.put bs
    putEach pieces

/-- `act` writes exactly the bytes `bs`, in pieces of any size, and answers `a`. -/
def Writes (act : m α) (bs : Bytes) (a : α) : Prop :=
  ∃ pieces : List Bytes, pieces.flatten = bs ∧ act = (do putEach pieces; pure a)

theorem Writes.of_eq {act : m α} {bs cs : Bytes} {a : α} (h : Writes act bs a) (hb : bs = cs) :
    Writes act cs a :=
  hb ▸ h

/-! ## Composition -/

section Lawful

variable [LawfulMonad m]

theorem putEach_append (ps qs : List Bytes) :
    (putEach (ps ++ qs) : m Unit) = (do putEach ps; putEach qs) := by
  induction ps with
  | nil => simp [putEach]
  | cons bs ps ih => simp [putEach, ih]

theorem writes_pure (a : α) : Writes (pure a : m α) [] a :=
  ⟨[], rfl, by simp [putEach]⟩

theorem writes_put (bs : Bytes) : Writes (ByteOutput.put bs : m Unit) bs () :=
  ⟨[bs], by simp, by simp [putEach]⟩

theorem Writes.bind {act : m α} {next : α → m β} {bs cs : Bytes} {a : α} {b : β}
    (hact : Writes act bs a) (hnext : Writes (next a) cs b) :
    Writes (act >>= next) (bs ++ cs) b := by
  obtain ⟨ps, hps, hact⟩ := hact
  obtain ⟨qs, hqs, hnext⟩ := hnext
  refine ⟨ps ++ qs, by rw [List.flatten_append, hps, hqs], ?_⟩
  rw [hact, putEach_append, bind_assoc, bind_assoc, pure_bind, hnext]

/-- A computation for each element of a list, each given what the one before answered. -/
theorem writes_foldlM {ι : Type} {f : β → ι → m β} {bytes : ι → Bytes} {xs : List ι} {b : β}
    (h : ∀ x ∈ xs, Writes (f b x) (bytes x) b) :
    Writes (xs.foldlM f b) (xs.flatMap bytes) b := by
  induction xs with
  | nil => exact writes_pure b
  | cons x xs ih =>
    rw [List.foldlM_cons, List.flatMap_cons]
    exact (h x List.mem_cons_self).bind (ih fun y hy => h y (List.mem_cons_of_mem x hy))

end Lawful

/-! ## With a state and errors -/

section State

variable {ε σ : Type} {x : EStateM ε σ α} {f : α → EStateM ε σ β} {s s' s'' : σ} {a : α} {b : β}
  {e : ε}

theorem bind_of_ok (h : x s = .ok a s') : (x >>= f) s = f a s' := by
  change EStateM.bind x f s = _
  rw [EStateM.bind, h]

theorem bind_of_error (h : x s = .error e s') : (x >>= f) s = .error e s' := by
  change EStateM.bind x f s = _
  rw [EStateM.bind, h]

theorem ok_of_bind (h : (x >>= f) s = .ok b s'') :
    ∃ a s', x s = .ok a s' ∧ f a s' = .ok b s'' := by
  cases hx : x s with
  | ok a s' => exact ⟨a, s', rfl, (bind_of_ok hx).symm.trans h⟩
  | error e s' =>
    rw [bind_of_error hx] at h
    cases h

theorem error_of_bind (h : (x >>= f) s = .error e s'') :
    x s = .error e s'' ∨ ∃ a s', x s = .ok a s' ∧ f a s' = .error e s'' := by
  cases hx : x s with
  | ok a s' => exact .inr ⟨a, s', rfl, (bind_of_ok hx).symm.trans h⟩
  | error e' s' =>
    rw [bind_of_error hx] at h
    cases h
    exact .inl rfl

end State

/-! ## In memory -/

theorem run_putEach (pieces : List Bytes) (held : Array UInt8) :
    (putEach pieces : InMemory Unit) held = ((), held ++ pieces.flatten) := by
  induction pieces generalizing held with
  | nil => simp [putEach]; rfl
  | cons bs pieces ih =>
    change (putEach pieces : InMemory Unit) (held ++ bs) = _
    rw [ih, List.flatten_cons]
    exact congrArg (Prod.mk ()) (Array.ext' (by simp))

theorem InMemory.bytes_of_writes {act : InMemory Unit} {bs : Bytes} (h : Writes act bs ()) :
    InMemory.bytes act = bs := by
  obtain ⟨pieces, rfl, rfl⟩ := h
  change ((putEach pieces : InMemory Unit) #[]).2.toList = _
  rw [run_putEach]
  simp

end AgeReport
