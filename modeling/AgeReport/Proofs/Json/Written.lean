import AgeReport.Json.Serializer
import AgeReport.Proofs.Output.Writes

/-!
# The text that a serializer writes

The serializer works with a state: the depth, and whether the innermost list or object has a part
yet. The texts below need none; each is put together from the texts of its parts.

A value is *placed* as `bs` at a depth if it writes `bs` there, whatever was written before it, and
leaves the depth as it was. Placed parts make a placed list or object, so the text of a value is
found by going through its parts once.

Results:
* `placed_group`: parts between brackets, however many there are.
* `placed_object`: an object.
* `Placed.toBytes`, `Placed.writes`: a whole text.
-/

namespace AgeReport.Json

/-! ## Texts -/

/-- A string between quotes; it needs no escapes. -/
def quoted (s : String) : Bytes :=
  [0x22] ++ Text.bytes s ++ [0x22]

namespace Layout

/-- What separates a part at the given depth from what stands before it. -/
def newline : Layout → Nat → Bytes
  | compact, _ => []
  | indented, depth => 0x0A :: List.replicate (2 * depth) 0x20

/-- A member of an object: its quoted name and its value. -/
def member (l : Layout) (name : String) (value : Bytes) : Bytes :=
  quoted name ++ l.colon ++ value

/-- Parts behind the first, on lines of their own at the given depth, each behind a comma. -/
def further (l : Layout) (depth : Nat) : List Bytes → Bytes
  | [] => []
  | part :: parts => [0x2C] ++ l.newline depth ++ part ++ l.further depth parts

/-- Parts on lines of their own at the given depth, with commas between them. -/
def lines (l : Layout) (depth : Nat) : List Bytes → Bytes
  | [] => []
  | part :: parts => l.newline depth ++ part ++ l.further depth parts

/-- A list or an object at the given depth with the given parts. -/
def group (l : Layout) (b : Bracket) (depth : Nat) (parts : List Bytes) : Bytes :=
  [b.opening] ++ l.lines (depth + 1) parts ++
    (if parts = [] then [] else l.newline depth) ++ [b.closing]

/-- Parts on lines of their own are parts with commas between them, the first as the others. -/
theorem lines_eq_intercalate (l : Layout) (d : Nat) (parts : List Bytes) :
    l.lines d parts = [0x2C].intercalate (parts.map (l.newline d ++ ·)) := by
  induction parts with
  | nil => rfl
  | cons part parts ih =>
    cases parts with
    | nil => rw [List.map_singleton, List.intercalate_singleton, lines, further, List.append_nil]
    | cons next parts =>
      rw [List.map_cons, List.map_cons, List.intercalate_cons_cons, ← List.map_cons, ← ih, lines,
        lines, further]
      simp only [List.append_assoc]

end Layout

namespace Serializer

variable {m : Type → Type} [Monad m] [ByteOutput m] [LawfulMonad m]
variable {α β : Type} {l : Layout} {d : Nat} {f f' f'' : Formatter} {bs cs : Bytes}

/-! ## Steps of the serializer -/

theorem writes_run_pure (a : α) : Writes ((pure a : Serializer m α).run f) [] (a, f) :=
  writes_pure (a, f)

theorem writes_run_bind {act : Serializer m α} {next : α → Serializer m β} {a : α} {b : β}
    (hact : Writes (act.run f) bs (a, f')) (hnext : Writes ((next a).run f') cs (b, f'')) :
    Writes ((act >>= next).run f) (bs ++ cs) (b, f'') := by
  rw [StateT.run_bind]
  exact hact.bind hnext

theorem writes_run_emit (bs : Bytes) : Writes ((emit bs : Serializer m Unit).run f) bs ((), f) := by
  have h : Writes (ByteOutput.put bs >>= fun u : Unit => (pure (u, f) : m (Unit × Formatter)))
      (bs ++ []) ((), f) := (writes_put bs).bind (writes_pure _)
  rwa [List.append_nil] at h

theorem writes_run_modify (g : Formatter → Formatter) :
    Writes ((modify g : Serializer m PUnit).run f) [] ((), g f) :=
  writes_pure ((), g f)

theorem writes_run_get : Writes ((get : Serializer m Formatter).run f) [] (f, f) :=
  writes_pure (f, f)

theorem writes_run_indent (n : Nat) :
    Writes ((indent n : Serializer m Unit).run f) (List.replicate (2 * n) 0x20) ((), f) := by
  induction n with
  | zero => exact writes_run_pure ()
  | succ n ih => exact (writes_run_bind (writes_run_emit _) ih).of_eq rfl

theorem writes_run_openBracket (b : Bracket) :
    Writes ((openBracket b : Serializer m Unit).run f) [b.opening]
      ((), { f with depth := f.depth + 1, filled := false }) :=
  (writes_run_bind (writes_run_modify _) (writes_run_emit _)).of_eq rfl

theorem writes_run_breakLine :
    Writes ((breakLine : Serializer m Unit).run f)
      (if f.filled then f.layout.newline f.depth else [])
      ((), f) := by
  obtain ⟨layout, depth, filled⟩ := f
  refine (writes_run_bind writes_run_get ?_).of_eq (List.nil_append _)
  cases layout <;> cases filled
  · exact writes_run_pure ()
  · exact writes_run_pure ()
  · exact writes_run_pure ()
  · exact (writes_run_bind (writes_run_emit [0x0A]) (writes_run_indent depth)).of_eq rfl

theorem writes_run_closeBracket (b : Bracket) :
    Writes ((closeBracket b : Serializer m Unit).run f)
      ((if f.filled then f.layout.newline (f.depth - 1) else []) ++ [b.closing])
      ((), { f with depth := f.depth - 1 }) :=
  (writes_run_bind (writes_run_modify _)
    (writes_run_bind writes_run_breakLine (writes_run_emit _))).of_eq rfl

theorem writes_run_separate (first : Bool) :
    Writes ((separate first : Serializer m Unit).run f)
      ((if first then [] else [0x2C]) ++ f.layout.newline f.depth) ((), f) := by
  obtain ⟨layout, depth, filled⟩ := f
  refine (writes_run_bind writes_run_get ?_).of_eq (List.nil_append _)
  cases layout <;> cases first
  · exact writes_run_emit _
  · exact writes_run_pure ()
  · exact (writes_run_bind (writes_run_emit [0x2C, 0x0A]) (writes_run_indent depth)).of_eq rfl
  · exact (writes_run_bind (writes_run_emit [0x0A]) (writes_run_indent depth)).of_eq rfl

/-! ## Placed values -/

/-- `value` writes `bs` wherever it stands at depth `d`, and leaves the depth as it was. -/
def Placed (value : Serializer m Unit) (l : Layout) (d : Nat) (bs : Bytes) : Prop :=
  ∀ filled, ∃ filled', Writes (value.run ⟨l, d, filled⟩) bs ((), ⟨l, d, filled'⟩)

theorem placed_integer (n : Int) : Placed (integer n : Serializer m Unit) l d (Decimal.bytes n) :=
  fun filled => ⟨filled, writes_run_emit _⟩

theorem writes_run_string (s : String) :
    Writes ((string s : Serializer m Unit).run f) (quoted s) ((), f) :=
  (writes_run_bind (writes_run_emit _) (writes_run_bind (writes_run_emit _)
    (writes_run_emit _))).of_eq (List.append_assoc ..).symm

theorem placed_string (s : String) : Placed (string s : Serializer m Unit) l d (quoted s) :=
  fun filled => ⟨filled, writes_run_string s⟩

theorem placed_member {name : String} {value : Serializer m Unit} (h : Placed value l d bs) :
    Placed (member name value) l d (l.member name bs) := by
  intro filled
  obtain ⟨filled', hvalue⟩ := h filled
  refine ⟨filled', (writes_run_bind (writes_run_string name) (writes_run_bind writes_run_get
    (writes_run_bind (writes_run_emit _) hvalue))).of_eq ?_⟩
  simp [Layout.member]

/-! ## Parts between brackets -/

theorem writes_addPart {p : Progress} {part : Serializer m Unit} {filled : Bool}
    (h : Placed part l d bs) :
    Writes ((addPart p part).run ⟨l, d, filled⟩)
      ((if p = .first then [] else [0x2C]) ++ l.newline d ++ bs) (Progress.rest, ⟨l, d, true⟩) := by
  obtain ⟨filled', h⟩ := h filled
  refine (writes_run_bind (writes_run_separate _) (writes_run_bind h
    (writes_run_bind (writes_run_modify _) (writes_run_pure Progress.rest)))).of_eq ?_
  simp

section Parts

variable {ι : Type} {part : ι → Serializer m Unit} {text : ι → Bytes}

/-- Behind the first part nothing changes any more, so each part adds a comma and its line. -/
theorem writes_moreParts {xs : List ι} (h : ∀ x ∈ xs, Placed (part x) l d (text x)) :
    Writes ((xs.foldlM (fun p x => addPart p (part x)) Progress.rest).run ⟨l, d, true⟩)
      (l.further d (xs.map text)) (Progress.rest, ⟨l, d, true⟩) := by
  induction xs with
  | nil => exact writes_run_pure _
  | cons x xs ih =>
    rw [List.foldlM_cons, List.map_cons, Layout.further]
    exact writes_run_bind (writes_addPart (h x List.mem_cons_self))
      (ih fun y hy => h y (List.mem_cons_of_mem x hy))

theorem writes_start_zero (b : Bracket) {filled : Bool} :
    Writes ((start b (some 0) : Serializer m Progress).run ⟨l, d, filled⟩) [b.opening, b.closing]
      (Progress.empty, ⟨l, d, false⟩) := by
  refine (writes_run_bind (writes_run_openBracket b) ?_).of_eq rfl
  rw [if_pos rfl]
  exact (writes_run_bind (writes_run_closeBracket b) (writes_run_pure Progress.empty)).of_eq rfl

theorem writes_start_succ (b : Bracket) (n : Nat) {filled : Bool} :
    Writes ((start b (some (n + 1)) : Serializer m Progress).run ⟨l, d, filled⟩) [b.opening]
      (Progress.first, ⟨l, d + 1, false⟩) := by
  refine (writes_run_bind (writes_run_openBracket b) ?_).of_eq rfl
  rw [if_neg (by simp)]
  exact writes_run_pure Progress.first

theorem writes_finish_rest (b : Bracket) :
    Writes ((finish b .rest : Serializer m Unit).run ⟨l, d + 1, true⟩) (l.newline d ++ [b.closing])
      ((), ⟨l, d, true⟩) :=
  writes_run_closeBracket b

/-- **Parts between brackets.** If every part is placed one level deeper, so is the list or the
object that they make. -/
theorem placed_group {xs : List ι} (b : Bracket)
    (h : ∀ x ∈ xs, Placed (part x) l (d + 1) (text x)) :
    Placed (do
      let p ← start b (some xs.length)
      finish b (← xs.foldlM (fun p x => addPart p (part x)) p)) l d
      (l.group b d (xs.map text)) := by
  intro filled
  cases xs with
  | nil =>
    refine ⟨false, (writes_run_bind (writes_start_zero b)
      (writes_run_bind (writes_run_pure Progress.empty) (writes_run_pure ()))).of_eq ?_⟩
    simp [Layout.group, Layout.lines]
  | cons x xs =>
    have hparts : Writes
        (((x :: xs).foldlM (fun p x => addPart p (part x)) Progress.first).run ⟨l, d + 1, false⟩)
        (l.newline (d + 1) ++ text x ++ l.further (d + 1) (xs.map text))
        (Progress.rest, ⟨l, d + 1, true⟩) := by
      rw [List.foldlM_cons]
      exact writes_run_bind (writes_addPart (h x List.mem_cons_self))
        (writes_moreParts fun y hy => h y (List.mem_cons_of_mem x hy))
    refine ⟨true, (writes_run_bind (writes_start_succ b xs.length)
      (writes_run_bind hparts (writes_finish_rest b))).of_eq ?_⟩
    simp [Layout.group, Layout.lines]

end Parts

/-- An object, given the name, the value and the text of the value of each member. -/
theorem placed_object (members : List (String × Serializer m Unit × Bytes))
    (h : ∀ e ∈ members, Placed e.2.1 l (d + 1) e.2.2) :
    Placed (object (members.map fun e => (e.1, e.2.1))) l d
      (l.group .object d (members.map fun e => l.member e.1 e.2.2)) := by
  have hparts : ∀ e ∈ members, Placed (member e.1 e.2.1) l (d + 1) (l.member e.1 e.2.2) :=
    fun e he => placed_member (h e he)
  unfold object
  simp only [List.length_map, List.foldlM_map]
  exact placed_group .object hparts

/-! ## Whole texts -/

theorem Placed.writes {text : Serializer m Unit} (h : Placed text l 0 bs) :
    Writes (text.write l) bs () := by
  obtain ⟨filled', h⟩ := h false
  have hrun : text.write l = text.run { layout := l } >>= fun p => pure p.1 := by
    rw [write, StateT.run', map_eq_pure_bind]
    rfl
  rw [hrun]
  exact (h.bind (writes_pure ())).of_eq (List.append_nil bs)

end Serializer

theorem Serializer.Placed.toBytes {text : Serializer InMemory Unit} {l : Layout} {bs : Bytes}
    (h : Placed text l 0 bs) : toBytes l text = bs :=
  InMemory.bytes_of_writes h.writes

end AgeReport.Json
