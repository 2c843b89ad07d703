import AgeReport.Output.Sink
import AgeReport.Proofs.Output.Writes

/-!
# What a sink holds in the end

A sink takes bytes in portions, may interrupt a call and may run out of room at any byte. None of
this shows in the end: whatever the portions, the sink holds the bytes that there was room for, and
the writer stops exactly if there were more.

A sink is *fair* if calling it again makes progress: it takes at least one byte a call while there
is room, it does not interrupt every call, and the error with which it refuses bytes does not ask
for the call to be repeated.

Results:
* `writeAll_eq`: one write on a fair sink.
* `Writes.sink_eq`: any computation that writes, on a fair sink.
* `Writes.took`: on any sink, whoever comes through has written everything.
-/

namespace AgeReport

/-- The error says no more than that a call was interrupted and may be repeated. -/
def IoError.IsInterruption : IoError → Prop
  | .system code => code = 4
  | .plain kind | .custom kind _ => kind = .interrupted
  | .incomplete | .zeroInPath => False

namespace Sink

/-- Calling the sink again makes progress, or ends in an error. -/
structure Fair (s : Sink) : Prop where
  takes : s.rules.chunk ≠ some 0
  answers : s.rules.interrupt ≠ 1
  ends : ∀ e, s.rules.failure = some e → ¬ e.IsInterruption

/-! ## Room -/

/-- The beginning of `bs` that there is room for. -/
def fitting (s : Sink) (bs : Bytes) : Bytes :=
  match s.room with
  | none => bs
  | some r => bs.take r

/-- Whether there is room for `bs`. -/
def fits (s : Sink) (bs : Bytes) : Bool :=
  match s.room with
  | none => true
  | some r => bs.length ≤ r

/-- The error of a write that there is no room for. -/
def exhaustion (s : Sink) : IoError :=
  s.rules.failure.getD .incomplete

/-- `s'` is `s` after it has taken the bytes `bs`, in any number of calls. -/
structure Took (s : Sink) (bs : Bytes) (s' : Sink) : Prop where
  rules : s'.rules = s.rules
  room : s'.room = s.room.map (· - bs.length)
  held : s'.held = s.held ++ bs
  flushes : s'.flushes = s.flushes

variable {s s' s'' : Sink} {bs cs : Bytes}

theorem fitting_of_room {r : Nat} (hr : s.room = some r) (bs : Bytes) :
    s.fitting bs = bs.take r := by
  rw [fitting, hr]

/-- Only a sink with limited room has none for some bytes. -/
theorem fits_eq_false_iff : s.fits bs = false ↔ ∃ r, s.room = some r ∧ r < bs.length := by
  rw [fits]
  cases s.room <;> simp

theorem fitting_of_fits (h : s.fits bs = true) : s.fitting bs = bs := by
  unfold fits fitting at *
  cases hr : s.room with
  | none => rfl
  | some r =>
    rw [hr] at h
    exact List.take_of_length_le (of_decide_eq_true h)

theorem fitting_prefix (s : Sink) (bs : Bytes) : s.fitting bs <+: bs := by
  unfold fitting
  split
  · exact List.prefix_rfl
  · exact List.take_prefix _ _

theorem fitting_ne_of_not_fits (h : s.fits bs = false) : s.fitting bs ≠ bs := by
  obtain ⟨r, hr, hlt⟩ := fits_eq_false_iff.1 h
  intro heq
  have hlength := congrArg List.length heq
  rw [fitting_of_room hr, List.length_take] at hlength
  omega

theorem fits_nil (s : Sink) : s.fits [] = true := by
  unfold fits
  split <;> simp

theorem took_nil (s : Sink) : s.Took [] s where
  rules := rfl
  room := by cases s.room <;> simp
  held := by simp
  flushes := rfl

theorem Took.trans (h : s.Took bs s') (h' : s'.Took cs s'') : s.Took (bs ++ cs) s'' where
  rules := h'.rules.trans h.rules
  room := by
    rw [h'.room, h.room, Option.map_map, List.length_append]
    congr 1
    funext r
    exact Nat.sub_sub r bs.length cs.length
  held := by
    rw [h'.held, h.held]
    exact Array.ext' (by simp)
  flushes := h'.flushes.trans h.flushes

theorem Fair.of_rules (hs : s.Fair) (h : s'.rules = s.rules) : s'.Fair :=
  ⟨h ▸ hs.takes, h ▸ hs.answers, h ▸ hs.ends⟩

theorem Took.fair (h : s.Took bs s') (hs : s.Fair) : s'.Fair :=
  hs.of_rules h.rules

theorem Took.exhaustion_eq (h : s.Took bs s') : s'.exhaustion = s.exhaustion := by
  rw [exhaustion, exhaustion, h.rules]

/-- After bytes that fitted, the rest fits exactly if everything did from the start. -/
theorem Took.fits_eq (h : s.Took bs s') (hs : s.fits bs = true) (cs : Bytes) :
    s'.fits cs = s.fits (bs ++ cs) := by
  unfold fits at *
  rw [h.room]
  cases hr : s.room with
  | none => rfl
  | some r =>
    rw [hr] at hs
    have := of_decide_eq_true hs
    simp only [Option.map_some, List.length_append, decide_eq_decide]
    omega

theorem Took.fitting_eq (h : s.Took bs s') (hs : s.fits bs = true) (cs : Bytes) :
    bs ++ s'.fitting cs = s.fitting (bs ++ cs) := by
  unfold fits fitting at *
  rw [h.room]
  cases hr : s.room with
  | none => rfl
  | some r =>
    rw [hr] at hs
    have := of_decide_eq_true hs
    simp only [Option.map_some]
    rw [List.take_append, List.take_of_length_le this]

/-- What does not fit uses up the room. -/
theorem Took.room_of_not_fits (h : s.Took (s.fitting bs) s') (hfits : s.fits bs = false) :
    s'.room = some 0 := by
  obtain ⟨r, hr, hlt⟩ := fits_eq_false_iff.1 hfits
  rw [h.room, hr, fitting_of_room hr, List.length_take, Nat.min_eq_left (Nat.le_of_lt hlt),
    Option.map_some, Nat.sub_self]

/-- If the beginning does not fit, what follows it does not matter. -/
theorem fits_append_of_not_fits (h : s.fits bs = false) (cs : Bytes) :
    s.fits (bs ++ cs) = false ∧ s.fitting (bs ++ cs) = s.fitting bs := by
  obtain ⟨r, hr, hlt⟩ := fits_eq_false_iff.1 h
  refine ⟨fits_eq_false_iff.2 ⟨r, hr, ?_⟩, ?_⟩
  · rw [List.length_append]
    omega
  · rw [fitting_of_room hr, fitting_of_room hr]
    exact List.take_append_of_le_length (Nat.le_of_lt hlt)

/-! ## One write -/

theorem portion_le (s : Sink) (n : Nat) : s.portion n ≤ n := by
  unfold portion
  dsimp only
  split <;> split <;> omega

theorem portion_le_room {r : Nat} (hr : s.room = some r) (n : Nat) : s.portion n ≤ r := by
  unfold portion
  rw [hr]
  exact Nat.min_le_right ..

theorem room_of_portion_eq_zero (hf : s.Fair) {n : Nat} (hn : 0 < n) (h : s.portion n = 0) :
    s.room = some 0 := by
  have htakes := hf.takes
  unfold portion at h
  cases hc : s.rules.chunk <;> cases hr : s.room <;> simp only [hc, hr] at h
  case none.none => omega
  case none.some r => rw [show r = 0 by omega]
  case some.none c =>
    have : c ≠ 0 := fun h0 => htakes (h0 ▸ hc)
    omega
  case some.some c r =>
    have : c ≠ 0 := fun h0 => htakes (h0 ▸ hc)
    rw [show r = 0 by omega]

/-- A call that takes bytes takes a beginning of them that fits. -/
theorem took_of_call {n : Nat} (h : s.call bs = (.took n, s')) :
    s.Took (bs.take n) s' ∧ s.fits (bs.take n) = true := by
  unfold call at h
  split at h
  · simp at h
  split at h
  · simp at h
  simp only [Prod.mk.injEq, Reply.took.injEq] at h
  obtain ⟨rfl, rfl⟩ := h
  have hle := s.portion_le bs.length
  refine ⟨⟨rfl, ?_, rfl, rfl⟩, ?_⟩
  · simp [accept, Nat.min_eq_left hle]
  · unfold fits
    cases hr : s.room with
    | none => rfl
    | some r =>
      have := portion_le_room hr bs.length
      simp only [List.length_take, decide_eq_true_eq]
      omega

/-- A call that is interrupted changes nothing but the number of calls. -/
theorem took_of_interrupted (h : s.call bs = (.interrupted, s')) : s.Took [] s' := by
  unfold call at h
  split at h
  · simp only [Prod.mk.injEq, true_and] at h
    subst h
    exact ⟨rfl, (took_nil s).room, (took_nil s).held, rfl⟩
  · split at h <;> simp at h

/-- A fair sink refuses bytes only if there is no room left. -/
theorem room_of_refused {e : IoError} (hf : s.Fair) (hbs : bs ≠ [])
    (h : s.call bs = (.refused e, s')) :
    s.room = some 0 ∧ e = s.exhaustion ∧ s.Took [] s' := by
  unfold call at h
  split at h
  · simp at h
  split at h
  case isFalse => simp at h
  rename_i hp
  simp only [Prod.mk.injEq, Reply.refused.injEq] at h
  obtain ⟨rfl, rfl⟩ := h
  have hroom := room_of_portion_eq_zero hf (List.length_pos_iff.2 hbs) hp
  refine ⟨hroom, ?_, rfl, (took_nil s).room, (took_nil s).held, rfl⟩
  rw [refusal, if_pos hroom, exhaustion]

/-- One write, on a fair sink. -/
theorem writeAll_eq (hf : s.Fair) (bs : Bytes) :
    ∃ s', s.Took (s.fitting bs) s' ∧
      s.writeAll bs = if s.fits bs then .ok () s' else .error s.exhaustion s' := by
  fun_induction writeAll bs s with
  | case1 s =>
    rw [fitting_of_fits s.fits_nil, s.fits_nil]
    exact ⟨s, took_nil s, rfl⟩
  | case2 bs s hbs n s' hcall ih =>
    -- the bytes taken fitted, so what the rest comes to is what everything comes to
    obtain ⟨htook, hfits⟩ := took_of_call hcall
    obtain ⟨s'', hrest, heq⟩ := ih (htook.fair hf)
    have happend := List.take_append_drop n bs
    have hall := htook.trans hrest
    rw [htook.fitting_eq hfits, happend] at hall
    rw [htook.fits_eq hfits, happend, htook.exhaustion_eq] at heq
    exact ⟨s'', hall, heq⟩
  | case3 bs s hbs s' hcall ih =>
    have htook := took_of_interrupted hcall
    obtain ⟨s'', hrest, heq⟩ := ih (htook.fair hf)
    have hall := htook.trans hrest
    rw [htook.fitting_eq s.fits_nil] at hall
    rw [htook.fits_eq s.fits_nil, htook.exhaustion_eq] at heq
    exact ⟨s'', hall, heq⟩
  | case4 bs s hbs e s' hcall =>
    obtain ⟨hroom, rfl, htook⟩ := room_of_refused hf hbs hcall
    have hfits : s.fits bs = false :=
      fits_eq_false_iff.2 ⟨0, hroom, List.length_pos_iff.2 hbs⟩
    have hfitting : s.fitting bs = [] := by rw [fitting_of_room hroom, List.take_zero]
    rw [hfitting, hfits]
    exact ⟨s', htook, rfl⟩

/-- A write that comes through, on any sink, has written everything. -/
theorem took_of_writeAll {u : Unit} (h : s.writeAll bs = .ok u s') : s.Took bs s' := by
  fun_induction writeAll bs s with
  | case1 s =>
    cases h
    exact took_nil _
  | case2 bs s hbs n t hcall ih =>
    have hall := (took_of_call hcall).1.trans (ih h)
    rwa [List.take_append_drop] at hall
  | case3 bs s hbs t hcall ih => exact (took_of_interrupted hcall).trans (ih h)
  | case4 bs s hbs e t hcall => cases h

end Sink

/-! ## Many writes -/

section Many

variable {s s' : Sink} {bs : Bytes} {α : Type} {a : α}

theorem putEach_eq (hf : s.Fair) (pieces : List Bytes) :
    ∃ s', s.Took (s.fitting pieces.flatten) s' ∧
      (putEach pieces : EStateM IoError Sink Unit) s =
        if s.fits pieces.flatten then .ok () s' else .error s.exhaustion s' := by
  induction pieces generalizing s with
  | nil =>
    rw [List.flatten_nil, Sink.fitting_of_fits s.fits_nil, s.fits_nil]
    exact ⟨s, Sink.took_nil s, rfl⟩
  | cons bs pieces ih =>
    obtain ⟨s₁, htook, hwrite⟩ := Sink.writeAll_eq hf bs
    rw [List.flatten_cons]
    cases hfits : s.fits bs with
    | true =>
      rw [Sink.fitting_of_fits hfits] at htook
      rw [hfits] at hwrite
      obtain ⟨s₂, hrest, heq⟩ := ih (htook.fair hf)
      have hall := htook.trans hrest
      rw [htook.fitting_eq hfits] at hall
      rw [htook.fits_eq hfits, htook.exhaustion_eq] at heq
      exact ⟨s₂, hall, (bind_of_ok hwrite).trans heq⟩
    | false =>
      obtain ⟨hnot, hsame⟩ := Sink.fits_append_of_not_fits hfits pieces.flatten
      rw [hfits] at hwrite
      rw [hnot, hsame]
      exact ⟨s₁, htook, bind_of_error hwrite⟩

/-- **Any computation that writes, on a fair sink.** It comes through exactly if there is room for
all of its bytes; the sink takes those that there is room for. -/
theorem Writes.sink_eq {act : EStateM IoError Sink α} (h : Writes act bs a) (hf : s.Fair) :
    ∃ s', s.Took (s.fitting bs) s' ∧
      act s = if s.fits bs then .ok a s' else .error s.exhaustion s' := by
  obtain ⟨pieces, rfl, rfl⟩ := h
  obtain ⟨s', htook, heq⟩ := putEach_eq hf pieces
  refine ⟨s', htook, ?_⟩
  cases hfits : s.fits pieces.flatten with
  | true =>
    rw [hfits] at heq
    exact bind_of_ok heq
  | false =>
    rw [hfits] at heq
    exact bind_of_error heq

theorem took_of_putEach {pieces : List Bytes} {u : Unit}
    (h : (putEach pieces : EStateM IoError Sink Unit) s = .ok u s') :
    s.Took pieces.flatten s' := by
  induction pieces generalizing s with
  | nil =>
    cases h
    exact Sink.took_nil _
  | cons bs pieces ih =>
    obtain ⟨_, t, hwrite, hrest⟩ := ok_of_bind h
    exact (Sink.took_of_writeAll hwrite).trans (ih hrest)

/-- **Any computation that writes, on any sink.** If it comes through, all its bytes were taken. -/
theorem Writes.took {act : EStateM IoError Sink α} {a' : α} (h : Writes act bs a)
    (hok : act s = .ok a' s') : s.Took bs s' := by
  obtain ⟨pieces, rfl, rfl⟩ := h
  obtain ⟨_, t, hput, hpure⟩ := ok_of_bind hok
  cases hpure
  exact took_of_putEach hput

end Many
end AgeReport
