import AgeReport.Proofs.EnvFile.Reading
import AgeReport.Proofs.EnvFile.Refused
import Mathlib.Data.List.Infix

/-!
# Where zero bytes in a settings file come from

A value is put together from the characters of its line, from values of the environment and from
values that the file gave before; no escape stands for U+0000. So as long as neither the file nor
the environment holds a zero byte, no value does, and the system refuses nothing.

Results:
* `clean_logicalLines`: the logical lines of a file without zero bytes.
* `clean_of_move`, `clean_readRest`: a character of a value, and a whole value.
* `clean_loadLines`: all values of a file, by the scope that each line leads to.
* `not_refused_of_clean`: without zero bytes nothing is refused.
-/

namespace AgeReport.EnvFile

/-- None of the characters is U+0000. -/
def Clean (cs : List Char) : Prop :=
  '\x00' ∉ cs

variable {cs ds before : List Char} {bs line file : Bytes} {lines : List Bytes} {s : LineState}

theorem Clean.of_subset (h : Clean cs) (hsub : ds ⊆ cs) : Clean ds :=
  fun hzero => h (hsub hzero)

theorem Clean.append (hcs : Clean cs) (hds : Clean ds) : Clean (cs ++ ds) := by
  rw [Clean, List.mem_append, not_or]
  exact ⟨hcs, hds⟩

theorem clean_singleton {c : Char} (h : c ≠ '\x00') : Clean [c] := by
  rw [Clean, List.mem_singleton]
  exact h.symm

theorem clean_nil : Clean [] :=
  List.not_mem_nil

/-! ## Lines -/

theorem clean_of_decode? (hline : 0 ∉ line) (h : Text.decode? line = some cs) : Clean cs := by
  rw [Text.decode?_eq_some_iff.1 h, Text.zero_mem_encode_iff] at hline
  exact hline

theorem run_subset (s : LineState) (cs : List Char) : (s.run cs).1 ⊆ cs := by
  induction cs generalizing s with
  | nil => exact List.Subset.refl []
  | cons c cs ih =>
    rw [LineState.run]
    split
    · exact List.nil_subset _
    · exact List.cons_subset_cons c (ih _)

theorem dropLineEnd_subset (cs : List Char) : dropLineEnd cs ⊆ cs := by
  intro c hc
  unfold dropLineEnd at hc
  split at hc
  · rename_i hreverse
    rw [← List.mem_reverse, hreverse]
    exact List.mem_cons_of_mem _ (List.mem_cons_of_mem _ (List.mem_reverse.1 hc))
  · rename_i hreverse
    rw [← List.mem_reverse, hreverse]
    exact List.mem_cons_of_mem _ (List.mem_reverse.1 hc)
  · exact hc

theorem trim_subset (cs : List Char) : Text.trim cs ⊆ cs := by
  intro c hc
  have hleft : c ∈ Text.trimLeft cs :=
    List.mem_reverse.1 ((List.dropWhile_sublist _).subset (List.mem_reverse.1 hc))
  exact (List.dropWhile_sublist _).subset hleft

theorem clean_joinLine (hbefore : Clean before) (hcs : Clean cs) :
    (∀ l ∈ (joinLine s before cs).1, Clean l) ∧ Clean (joinLine s before cs).2.2 := by
  have hwhole : Clean (before ++ cs) := hbefore.append hcs
  have hkept : Clean (before ++ (s.run cs).1) := hbefore.append (hcs.of_subset (run_subset s cs))
  have hended : Clean (dropLineEnd (before ++ cs)) := hwhole.of_subset (dropLineEnd_subset _)
  unfold joinLine
  dsimp only
  split
  · exact ⟨by simp, clean_nil⟩
  · rcases hrun : s.run cs with ⟨kept, _ | s'⟩
    · rw [hrun] at hkept
      exact ⟨by simpa using hkept, clean_nil⟩
    · cases s' with
      | complete => exact ⟨by simpa using hended, clean_nil⟩
      | _ => exact ⟨by simp, hwhole⟩

theorem clean_joinLines (hbefore : Clean before) (hlines : ∀ line ∈ lines, 0 ∉ line) :
    ∀ l ∈ joinLines s before lines, Clean l := by
  induction lines generalizing s before with
  | nil => simp [joinLines]
  | cons line lines ih =>
    cases hline : Text.decode? line with
    | none => simp [joinLines_cons_of_none hline]
    | some cs =>
      have hcs := clean_of_decode? (hlines line List.mem_cons_self) hline
      obtain ⟨hdone, hopen⟩ := clean_joinLine (s := s) hbefore hcs
      rw [joinLines_cons_of_some hline]
      intro l hl
      rcases List.mem_append.1 hl with hl | hl
      · exact hdone l hl
      · exact ih hopen (fun line' h' => hlines line' (List.mem_cons_of_mem line h')) l hl

theorem dropMark_subset (bs : Bytes) : dropMark bs ⊆ bs := by
  unfold dropMark
  split
  · exact fun b hb => List.mem_cons_of_mem _ (List.mem_cons_of_mem _ (List.mem_cons_of_mem _ hb))
  · exact List.Subset.refl _

theorem clean_logicalLines (h : 0 ∉ file) : ∀ l ∈ logicalLines file, Clean l := by
  refine clean_joinLines clean_nil fun line hline hzero => h ?_
  have hflatten : 0 ∈ (physicalLines (dropMark file)).flatten :=
    List.mem_flatten.2 ⟨line, hline, hzero⟩
  rw [flatten_physicalLines] at hflatten
  exact dropMark_subset file hflatten

/-! ## Values -/

section Values

variable {lookup : List Char → List Char} {weak weak' : Bool} {mode mode' : ValueMode} {c : Char}
  {added value : List Char}

/-- An escape stands for a character that can be seen, a blank or a newline. -/
theorem clean_of_escapeValue? {d : Char} (h : escapeValue? c = some d) : Clean [d] := by
  refine clean_singleton ?_
  unfold escapeValue? at h
  split at h
  · rename_i hmem
    cases h
    rintro rfl
    exact absurd hmem (by decide)
  · split at h
    · cases h
      decide
    · cases h

theorem added_of_movePlain (h : movePlain weak c = .go weak' mode' added) : added ⊆ [c] := by
  unfold movePlain at h
  repeat' split at h
  all_goals
    cases h
    simp

theorem added_of_moveBehindName {name : List Char}
    (h : moveBehindName lookup weak name c = .go weak' mode' added) :
    added ⊆ lookup name ++ [c] := by
  unfold moveBehindName at h
  repeat' split at h
  all_goals
    cases h
    simp

/-- A character other than U+0000 adds none to the value. -/
theorem clean_of_move (hlookup : ∀ name, Clean (lookup name)) (hc : c ≠ '\x00')
    (h : move lookup weak mode c = .go weak' mode' added) : Clean added := by
  have hone : Clean [c] := clean_singleton hc
  unfold move at h
  cases mode with
  | plain => exact hone.of_subset (added_of_movePlain h)
  | ended =>
    dsimp only at h
    repeat' split at h
    all_goals cases h
    exact clean_nil
  | escaped =>
    dsimp only at h
    split at h
    · rename_i d hd
      cases h
      exact clean_of_escapeValue? hd
    · cases h
  | strong =>
    dsimp only at h
    split at h <;> cases h
    · exact clean_nil
    · exact hone
  | name cs =>
    dsimp only at h
    split at h
    · cases h
      exact clean_nil
    · exact ((hlookup cs).append hone).of_subset (added_of_moveBehindName h)
  | braced cs =>
    dsimp only at h
    split at h <;> cases h
    · exact hlookup cs
    · exact clean_nil

theorem clean_of_atEnd (hlookup : ∀ name, Clean (lookup name))
    (h : atEnd lookup weak mode = some value) : Clean value := by
  unfold atEnd at h
  split at h
  · cases h
  · cases mode with
    | strong => cases h
    | braced _ => cases h
    | name cs =>
      cases h
      exact hlookup cs
    | _ =>
      cases h
      exact clean_nil

/-- A value is made of what its characters add. -/
theorem clean_readRest (hlookup : ∀ name, Clean (lookup name)) (hcs : Clean cs)
    (h : readRest lookup weak mode cs = some value) : Clean value := by
  induction cs generalizing weak mode value with
  | nil => exact clean_of_atEnd hlookup h
  | cons c cs ih =>
    have hc : c ≠ '\x00' := fun e => hcs (e ▸ List.mem_cons_self)
    have hrest : Clean cs := hcs.of_subset (List.subset_cons_self c cs)
    rw [readRest] at h
    split at h
    · cases h
    · cases h
      exact clean_nil
    · rename_i hmove
      obtain ⟨behind, hbehind, rfl⟩ := Option.map_eq_some_iff.1 h
      exact (clean_of_move hlookup hc hmove).append (ih hrest hbehind)

theorem clean_readTail (hlookup : ∀ name, Clean (lookup name)) (hcs : Clean cs)
    (h : readTail lookup cs = some value) : Clean value := by
  unfold readTail at h
  split at h
  · cases h
    exact clean_nil
  · cases h
    exact clean_nil
  · exact clean_readRest hlookup (hcs.of_subset (List.dropWhile_sublist _).subset) h

theorem readName_subset {name rest : List Char} (h : readName cs = some (name, rest)) :
    rest ⊆ cs := by
  unfold readName at h
  split at h
  · cases h
  · split at h
    · cases h
      exact fun d hd =>
        (List.dropWhile_sublist _).subset ((List.dropWhile_sublist _).subset hd)
    · cases h

theorem readEquals_subset {rest : List Char} (h : readEquals cs = some rest) : rest ⊆ cs := by
  unfold readEquals at h
  split at h
  · cases h
    exact List.subset_cons_self _ _
  · cases h

theorem readHead_subset {name rest : List Char} (h : readHead cs = some (name, rest)) :
    rest ⊆ cs := by
  obtain ⟨⟨first, behind⟩, hfirst, h⟩ := Option.bind_eq_some_iff.1 h
  have hbehind := readName_subset hfirst
  dsimp only at h
  split at h
  · rename_i hequals
    cases h
    exact List.Subset.trans (readEquals_subset hequals) hbehind
  · split at h
    · obtain ⟨⟨second, rest'⟩, hsecond, h⟩ := Option.bind_eq_some_iff.1 h
      obtain ⟨_, hequals, h⟩ := Option.bind_eq_some_iff.1 h
      cases h
      exact List.Subset.trans (readEquals_subset hequals)
        (List.Subset.trans (readName_subset hsecond) hbehind)
    · cases h

theorem clean_readLine {a : Assignment} (hlookup : ∀ name, Clean (lookup name)) (hcs : Clean cs)
    (h : readLine lookup cs = .assignment a) : Clean a.value.toList := by
  unfold readLine at h
  split at h
  · cases h
  · cases h
  · split at h
    · cases h
    · rename_i hhead
      split at h
      · cases h
      · rename_i htail
        cases h
        rw [String.toList_ofList]
        exact clean_readTail hlookup
          (hcs.of_subset (List.Subset.trans (readHead_subset hhead) (trim_subset cs))) htail

end Values

/-! ## Scopes -/

/-- No value of the environment holds a zero byte. -/
def CleanEnvironment (e : Environment) : Prop :=
  ∀ v ∈ e.entries, 0 ∉ v.2

/-- No value that a name can stand for holds a zero byte. -/
structure CleanScope (s : Scope) : Prop where
  environment : CleanEnvironment s.environment
  stored : ∀ name, Clean (s.stored name).toList

theorem clean_of_text? {raw : String} (hbs : 0 ∉ bs) (h : Text.text? bs = some raw) :
    Clean raw.toList := by
  rw [Text.text?_eq_some_iff.1 h, Text.bytes, Text.zero_mem_encode_iff] at hbs
  exact hbs

theorem clean_find? {e : Environment} (he : CleanEnvironment e) {key : String}
    (h : e.find? key = some bs) : 0 ∉ bs := by
  unfold Environment.find? at h
  split at h
  · split at h
    · cases h
    · obtain ⟨front, back, hentries, -⟩ := List.lookup_eq_some_iff.1 h
      exact he (key, bs) (by simp [hentries])
  · obtain ⟨v, hv, hprefix⟩ := List.exists_of_findSome?_eq_some h
    split at hprefix
    · have happend := List.append_eq_of_isPrefixOf?_eq_some hprefix
      exact fun hzero => he v hv (happend ▸ List.mem_append_right _ hzero)
    · cases hprefix

theorem CleanScope.lookup {s : Scope} (h : CleanScope s) (name : List Char) :
    Clean (s.lookup name) := by
  unfold Scope.lookup
  dsimp only
  cases htext : (s.environment.find? (String.ofList name)).bind Text.text? with
  | none => exact h.stored _
  | some raw =>
    obtain ⟨bs, hbs, hraw⟩ := Option.bind_eq_some_iff.1 htext
    exact clean_of_text? (clean_find? h.environment hbs) hraw

theorem mem_put {vs : List (String × Bytes)} {name : String} {value : Bytes} :
    ∀ v ∈ Environment.put.go name value vs, v ∈ vs ∨ v = (name, value) := by
  induction vs with
  | nil => simp [Environment.put.go]
  | cons w vs ih =>
    intro v hv
    rw [Environment.put.go] at hv
    split at hv
    · rcases List.mem_cons.1 hv with rfl | hv
      · exact .inr rfl
      · exact .inl (List.mem_cons_of_mem w hv)
    · rcases List.mem_cons.1 hv with rfl | hv
      · exact .inl List.mem_cons_self
      · exact (ih v hv).imp_left (List.mem_cons_of_mem w)

theorem clean_offer {e e' : Environment} {name value : String} (he : CleanEnvironment e)
    (hvalue : Clean value.toList) (h : e.offer name value = .ok e') : CleanEnvironment e' := by
  cases htext : e.text? name with
  | some raw =>
    rw [Environment.offer_of_isSome (by simp [htext])] at h
    cases h
    exact he
  | none =>
    rw [Environment.offer_of_none htext] at h
    rw [Environment.eq_put_of_set h]
    intro v hv
    rcases mem_put v hv with hv | rfl
    · exact he v hv
    · exact fun hzero => hvalue (Text.zero_mem_encode_iff.1 hzero)

/-- An assignment of a clean value leads to a clean scope. -/
theorem CleanScope.assign {s s' : Scope} {a : Assignment} (h : CleanScope s)
    (ha : Clean a.value.toList) (hassign : s.assign a = .ok s') : CleanScope s' := by
  obtain ⟨hoffer, hstored⟩ := offer_of_assign hassign
  refine ⟨clean_offer h.environment ha hoffer, fun name => ?_⟩
  rw [hstored, Scope.store]
  split
  · exact ha
  · exact h.stored name

/-- All values of a file, by the scope that each of its lines is read in. -/
theorem clean_loadLines {s : Scope} {lines : List (List Char)} (hs : CleanScope s)
    (hlines : ∀ l ∈ lines, Clean l) : ∀ a ∈ (loadLines s lines).1, Clean a.value.toList := by
  induction lines generalizing s with
  | nil => simp [loadLines]
  | cons line lines ih =>
    have hrest : ∀ l ∈ lines, Clean l := fun l hl => hlines l (List.mem_cons_of_mem line hl)
    rw [loadLines]
    split
    · simp
    · exact ih hs hrest
    · rename_i a hline
      have ha := clean_readLine hs.lookup (hlines line List.mem_cons_self) hline
      split
      · simpa using ha
      · rename_i s' hassign
        intro a' ha'
        rcases List.mem_cons.1 ha' with rfl | ha'
        · exact ha
        · exact ih (hs.assign ha hassign) hrest a' ha'

/-- Without zero bytes in the file and in the environment the system refuses nothing. -/
theorem not_refused_of_clean {e : Environment} (he : CleanEnvironment e) (hfile : 0 ∉ file)
    (a : Assignment) : ¬ Refused e (assignments e file) a := by
  rintro ⟨front, back, hgiven, -, -, hzero⟩
  have hstart : CleanScope (.start e) := ⟨he, fun _ => clean_nil⟩
  have hmem : a ∈ assignments e file := by simp [hgiven]
  exact clean_loadLines hstart (clean_logicalLines hfile) a hmem hzero

end AgeReport.EnvFile
