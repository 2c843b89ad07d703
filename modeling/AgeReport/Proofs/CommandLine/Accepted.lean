import AgeReport.Proofs.CommandLine.Progress
import Mathlib.Data.List.Nodup
import Mathlib.Data.List.TakeWhile

/-!
# What the command line accepts

The reading of arguments accepts exactly the command lines of the grammar in which no option is
given twice, and the options that come of them say what the groups say.

Results:
* `exists_group_of_finish`, `finish_group`: what is accepted begins with a group, and a group is
  read as its setting.
* `parse_eq_ok_iff`: the settings read, by induction on the groups.
* `ofArguments_accepts_grammar`: the options read; neither order nor spelling matters.
-/

namespace AgeReport.CommandLine

variable {v : Bytes} {s : Setting} {b : Bound} {y : Int32} {given : List Setting}

/-! ## Values in arguments of their own -/

theorem shape_eq_word_iff : shape v = .word ↔ (v.head? = some 0x2D → v = [0x2D]) := by
  unfold shape
  split
  · simp
  · simp
  · simp
  · rename_i h1 h2 h3
    simp only [true_iff]
    intro hhead
    cases v with
    | nil => cases hhead
    | cons b bs =>
      cases hhead
      cases bs with
      | nil => rfl
      | cons d bs => exact absurd rfl (h3 d bs)

theorem looksNumeric_of_digits {bs : Bytes} (h : ∀ d ∈ bs, Decimal.isDigitByte d = true) :
    looksNumeric bs = true := by
  have hmark : ∀ d ∈ bs, (!(d == 0x65 || d == 0x45)) = true := by
    intro d hd
    have h1 := Decimal.ne_of_isDigitByte (c := 0x65) (h d hd) (by decide)
    have h2 := Decimal.ne_of_isDigitByte (c := 0x45) (h d hd) (by decide)
    simp [h1, h2]
  have hmantissa := List.takeWhile_eq_self_iff.2 hmark
  have hexponent := List.dropWhile_eq_nil_iff.2 hmark
  have hwhole := List.dropWhile_eq_nil_iff.2 h
  simp only [looksNumeric, hmantissa, hexponent, hwhole, Bool.and_self]

/-- A numeral stands apart from its option, whatever its sign. -/
theorem takes_of_spells {cs : List Char} {n : Int} (b : Bound) (h : Numeral.Spells cs n) :
    Progress.Takes (.year b) (Text.encode cs) := by
  cases h with
  | plain hds =>
    obtain ⟨d, bs, hencode, hd⟩ := Numeral.exists_encode_of_isDigits hds
    rw [hencode]
    refine .inl (shape_eq_word_iff.2 fun hhead => ?_)
    exact absurd (Option.some.inj hhead) (Decimal.ne_of_isDigitByte hd (by decide))
  | plus hds => exact .inl rfl
  | minus hds =>
    rename_i ds
    obtain ⟨d, bs, hencode, hd⟩ := Numeral.exists_encode_of_isDigits hds
    have hnumeric := looksNumeric_of_digits (Decimal.isDigitByte_of_mem_encode hds.2)
    have hminus : Text.encode ('-' :: ds) = 0x2D :: d :: bs := by
      rw [Text.encode_cons_of_lt (by decide), hencode]
      rfl
    rw [hencode] at hnumeric
    have hne : d ≠ 0x2D := Decimal.ne_of_isDigitByte hd (by decide)
    have hshape : shape (0x2D :: d :: bs) = .short (d :: bs) := by
      simp [shape, hne]
    rw [hminus]
    exact .inr ⟨b, d, bs, rfl, hshape, hnumeric⟩

/-- Of the values that an option can use, it takes those that may stand apart. -/
theorem takes_iff (h : Gives v s) : Progress.Takes s.opt v ↔ StandsApart v s := by
  cases h with
  | year b hspells => exact iff_of_true (takes_of_spells b hspells) trivial
  | text => exact iff_of_true (.inl rfl) trivial
  | json => exact iff_of_true (.inl rfl) trivial
  | exportPath hv =>
    constructor
    · rintro (hword | ⟨b, d, bs, hopt, -⟩)
      · exact shape_eq_word_iff.1 hword
      · cases hopt
    · intro h
      exact .inl (shape_eq_word_iff.2 h)

/-! ## Groups -/

open Progress

theorem attached_eq_none (h : attached v = none) : v = [] := by
  unfold attached at h
  split at h
  · rfl
  · cases h
  · cases h

theorem eq_of_attached {w : Bytes} (h : attached v = some w) : v = 0x3D :: w ∨ v = w := by
  unfold attached at h
  split at h
  · cases h
  · cases h
    exact .inl rfl
  · cases h
    exact .inr rfl

theorem attached_of_ne {d : UInt8} (h : d ≠ 0x3D) (bs : Bytes) :
    attached (d :: bs) = some (d :: bs) := by
  unfold attached
  split
  · simp_all
  · simp_all
  · rfl

/-- A numeral begins with no `=`, so that none of it is dropped behind a letter. -/
theorem attached_of_spells {cs : List Char} {n : Int} (h : Numeral.Spells cs n) :
    attached (Text.encode cs) = some (Text.encode cs) := by
  cases h with
  | plain hds =>
    obtain ⟨d, bs, hencode, hd⟩ := Numeral.exists_encode_of_isDigits hds
    rw [hencode]
    exact attached_of_ne (Decimal.ne_of_isDigitByte hd (by decide)) bs
  | plus hds => exact attached_of_ne (by decide) _
  | minus hds => exact attached_of_ne (by decide) _

variable {front rest arguments : List Bytes} {a : Bytes} {new out : List Setting}

/-- What is read behind the settings so far begins with a group. -/
theorem exists_group_of_finish (ha : shape a ≠ .terminator)
    (h : (settled given).finish (a :: rest) = .ok out) :
    ∃ front back s, a :: rest = front ++ back ∧ back.length ≤ rest.length ∧ Group front s ∧
      s.opt ∉ given.map Setting.opt ∧ (settled (given ++ [s])).finish back = .ok out := by
  have hstep := h
  rw [finish_cons ha, bind_eq_ok_iff] at hstep
  obtain ⟨p, hp, -⟩ := hstep
  obtain ⟨o, value, hopens, -⟩ := (step_eq_ok_iff (by simp [settled])).1 hp
  cases value with
  | none =>
    obtain ⟨v, back, s, rfl, htakes, ⟨rfl, hv⟩, hnew, hback⟩ :=
      (finish_of_opens_none hopens rest).1 h
    refine ⟨[a, v], back, s, rfl, by simp, ?_, hnew, hback⟩
    generalize hopt : s.opt = o' at hopens
    generalize hvalue : (none : Option Bytes) = value at hopens
    cases hopens with
    | long o => exact hopt ▸ .apart hv ((takes_iff hv).1 htakes)
    | longEquals o w => cases hvalue
    | letter b w =>
      obtain rfl := attached_eq_none hvalue.symm
      cases hv with
      | year b' hspells =>
        cases hopt
        exact (List.append_nil (Text.bytes (shortName b))).symm ▸ .letterApart (.year b hspells)
      | text => cases hopt
      | json => cases hopt
      | exportPath hv => cases hopt
  | some v =>
    obtain ⟨s, ⟨rfl, hv⟩, hnew, hback⟩ := (finish_of_opens_some hopens rest).1 h
    refine ⟨[a], rest, s, rfl, Nat.le_refl _, ?_, hnew, hback⟩
    generalize hopt : s.opt = o' at hopens
    generalize hvalue : some v = value at hopens
    cases hopens with
    | long o => cases hvalue
    | longEquals o w =>
      cases hvalue
      exact hopt ▸ .attached hv
    | letter b w =>
      cases hv with
      | year b' hspells =>
        cases hopt
        rcases eq_of_attached hvalue.symm with rfl | rfl
        · exact .letterEquals (.year b hspells)
        · exact .letterAttached (.year b hspells)
      | text => cases hopt
      | json => cases hopt
      | exportPath hv => cases hopt

/-- A group is read as its setting, if that is new. -/
theorem finish_group (hg : Group front s) (hnew : s.opt ∉ given.map Setting.opt)
    (h : (settled (given ++ [s])).finish rest = .ok out) :
    (settled given).finish (front ++ rest) = .ok out := by
  cases hg with
  | apart hv hapart =>
    refine (finish_of_opens_none (.long s.opt) _).2 ⟨_, rest, s, rfl, ?_, ⟨rfl, hv⟩, hnew, h⟩
    exact (takes_iff hv).2 hapart
  | attached hv =>
    exact (finish_of_opens_some (.longEquals s.opt _) rest).2 ⟨s, ⟨rfl, hv⟩, hnew, h⟩
  | letterApart hv =>
    rename_i v b y
    have hopens : Opens (Text.bytes (shortName b)) (.year b) none :=
      List.append_nil (Text.bytes (shortName b)) ▸ .letter b []
    refine (finish_of_opens_none hopens _).2 ⟨v, rest, _, rfl, ?_, ⟨rfl, hv⟩, hnew, h⟩
    exact (takes_iff hv).2 trivial
  | letterAttached hv =>
    rename_i v b y
    have hopens : Opens (Text.bytes (shortName b) ++ v) (.year b) (some v) := by
      cases hv with
      | year b hspells => exact attached_of_spells hspells ▸ Opens.letter b _
    exact (finish_of_opens_some hopens rest).2 ⟨_, ⟨rfl, hv⟩, hnew, h⟩
  | letterEquals hv =>
    rename_i v b y
    exact (finish_of_opens_some (.letter b (0x3D :: v)) rest).2 ⟨_, ⟨rfl, hv⟩, hnew, h⟩

/-! ## Command lines -/

theorem reads_of_finish (hnodup : (given.map Setting.opt).Nodup)
    (h : (settled given).finish arguments = .ok out) :
    ∃ new, Reads arguments new ∧ out = given ++ new ∧ (out.map Setting.opt).Nodup := by
  induction hn : arguments.length using Nat.strongRecOn generalizing given arguments with
  | ind n ih =>
    cases arguments with
    | nil =>
      rw [finish_settled_nil] at h
      cases h
      exact ⟨[], .nil, by simp, hnodup⟩
    | cons a rest =>
      by_cases ha : shape a = .terminator
      · cases rest with
        | nil =>
          rw [finish_terminator ha, settle_settled] at h
          cases h
          rw [eq_of_shape_terminator ha]
          exact ⟨[], .terminator, by simp, hnodup⟩
        | cons b rest =>
          rw [finish_terminator_cons ha] at h
          cases h
      · obtain ⟨front, back, s, heq, hle, hg, hnew, hback⟩ := exists_group_of_finish ha h
        have hnodup' : ((given ++ [s]).map Setting.opt).Nodup := by
          rw [List.map_append, List.map_singleton]
          exact List.nodup_append.2 ⟨hnodup, by simp, by simpa using hnew⟩
        have hlt : back.length < n := by
          rw [← hn, List.length_cons]
          omega
        obtain ⟨new, hr, hout, hall⟩ := ih back.length hlt hnodup' hback rfl
        rw [heq]
        exact ⟨s :: new, .group hg hr, by simp [hout], hall⟩

theorem finish_of_reads (h : Reads arguments new)
    (hnodup : ((given ++ new).map Setting.opt).Nodup) :
    (settled given).finish arguments = .ok (given ++ new) := by
  induction h generalizing given with
  | nil => rw [finish_settled_nil, List.append_nil]
  | terminator => rw [finish_terminator (by decide), settle_settled, List.append_nil]
  | group hg hr ih =>
    rename_i front rest s new
    rw [List.append_cons] at hnodup ⊢
    refine finish_group hg ?_ (ih hnodup)
    rw [List.map_append, List.map_append, List.append_assoc] at hnodup
    have hdisjoint := (List.nodup_append.1 hnodup).2.2
    intro hmem
    exact hdisjoint _ hmem s.opt (by simp) rfl

theorem parse_eq_ok_iff : parse arguments = .ok out ↔
    Reads arguments out ∧ (out.map Setting.opt).Nodup := by
  have hparse : parse arguments = (settled []).finish arguments := rfl
  rw [hparse]
  constructor
  · intro h
    obtain ⟨new, hr, rfl, hnodup⟩ := reads_of_finish (by simp) h
    exact ⟨hr, hnodup⟩
  · rintro ⟨hr, hnodup⟩
    exact finish_of_reads hr hnodup

/-! ## From settings to options -/

/-- No two settings are made by one option. -/
theorem eq_of_opt_eq {t : Setting} (hnodup : (given.map Setting.opt).Nodup) (hs : s ∈ given)
    (ht : t ∈ given) (h : s.opt = t.opt) : s = t :=
  List.inj_on_of_nodup_map hnodup hs ht h

/-- Where an option is given once, the first setting of its kind is the only one. -/
theorem findSome?_eq_some_iff {α : Type} {f : Setting → Option α} (make : α → Setting) {x : α}
    (hf : ∀ s x, f s = some x ↔ s = make x) (hopt : ∀ x x', (make x).opt = (make x').opt)
    (hnodup : (given.map Setting.opt).Nodup) : given.findSome? f = some x ↔ make x ∈ given := by
  have hmem : ∀ x, given.findSome? f = some x → make x ∈ given := by
    intro x h
    obtain ⟨s, hs, hx⟩ := List.exists_of_findSome?_eq_some h
    exact (hf s x).1 hx ▸ hs
  refine ⟨hmem x, fun h => ?_⟩
  cases hfound : given.findSome? f with
  | none =>
    have hnone := List.findSome?_eq_none_iff.1 hfound (make x) h
    rw [(hf _ _).2 rfl] at hnone
    cases hnone
  | some x' =>
    have heq : make x' = make x := eq_of_opt_eq hnodup (hmem x' hfound) h (hopt x' x)
    rw [← (hf (make x) x).2 rfl, ← heq, (hf _ _).2 rfl]

theorem yearOf?_eq_some_iff (hnodup : (given.map Setting.opt).Nodup) :
    yearOf? given b = some y ↔ .year b y ∈ given := by
  refine findSome?_eq_some_iff (.year b) ?_ (fun _ _ => rfl) hnodup
  rintro (_ | _ | _) y <;> simp

theorem formatOf?_eq_some_iff {f : OutputFormat} (hnodup : (given.map Setting.opt).Nodup) :
    formatOf? given = some f ↔ .format f ∈ given := by
  refine findSome?_eq_some_iff .format ?_ (fun _ _ => rfl) hnodup
  rintro (_ | _ | _) f <;> simp

theorem exportPathOf?_eq_some_iff {path : Bytes} (hnodup : (given.map Setting.opt).Nodup) :
    exportPathOf? given = some path ↔ .exportPath path ∈ given := by
  refine findSome?_eq_some_iff .exportPath ?_ (fun _ _ => rfl) hnodup
  rintro (_ | _ | _) path <;> simp

theorem madeOf_apply (hnodup : (given.map Setting.opt).Nodup) :
    (({} : Options).apply given).MadeOf given where
  bound b y := by
    rw [← yearOf?_eq_some_iff hnodup]
    cases b <;> simp [Options.bound?, Options.apply]
  format f := by
    simp only [← formatOf?_eq_some_iff hnodup, Options.apply]
    cases formatOf? given with
    | none => simp [OutputFormat.standard, eq_comm]
    | some f' => simp
  exportPath path := by
    rw [← exportPathOf?_eq_some_iff hnodup]
    simp [Options.apply]

/-- Settings make the options in one way only. -/
theorem eq_of_madeOf {o o' : Options} (h : o.MadeOf given) (h' : o'.MadeOf given) : o = o' := by
  have hbound : ∀ b, o.bound? b = o'.bound? b := fun b =>
    Option.ext fun y => (h.bound b y).trans (h'.bound b y).symm
  have hformat := (h.format o'.format).2 ((h'.format o'.format).1 rfl)
  have hpath : o.exportPath = o'.exportPath :=
    Option.ext fun p => (h.exportPath p).trans (h'.exportPath p).symm
  have hbirth := hbound .birth
  have hcurrent := hbound .current
  obtain ⟨birth, current, format, path⟩ := o
  obtain ⟨birth', current', format', path'⟩ := o'
  simp only [Options.bound?] at hbirth hcurrent
  rw [hbirth, hcurrent, show format = format' from hformat, show path = path' from hpath]

theorem ofArguments_eq_ok_iff {o : Options} : Options.ofArguments arguments = .ok o ↔
    ∃ given, Reads arguments given ∧ (given.map Setting.opt).Nodup ∧ o.MadeOf given := by
  rw [Options.ofArguments, map_eq_ok_iff]
  constructor
  · rintro ⟨given, hparse, rfl⟩
    obtain ⟨hr, hnodup⟩ := parse_eq_ok_iff.1 hparse
    exact ⟨given, hr, hnodup, madeOf_apply hnodup⟩
  · rintro ⟨given, hr, hnodup, hmade⟩
    exact ⟨given, parse_eq_ok_iff.2 ⟨hr, hnodup⟩, eq_of_madeOf (madeOf_apply hnodup) hmade⟩

/-- **What the command line accepts.** Arguments make options exactly if they are option groups in
which no option is given twice, and the options are those that the groups make. Arguments that give
the same settings in another order or another spelling make the same options. -/
theorem ofArguments_accepts_grammar (arguments : List Bytes) :
    (∀ o, Options.ofArguments arguments = .ok o ↔
      ∃ given, Reads arguments given ∧ (given.map Setting.opt).Nodup ∧ o.MadeOf given) ∧
    ∀ given, Reads arguments given → (given.map Setting.opt).Nodup →
      ∀ arguments' given', Reads arguments' given' → given.Perm given' →
        ∃ o, Options.ofArguments arguments = .ok o ∧ Options.ofArguments arguments' = .ok o := by
  refine ⟨fun o => ofArguments_eq_ok_iff, ?_⟩
  intro given hr hnodup arguments' given' hr' hperm
  have hmade := madeOf_apply hnodup
  refine ⟨_, ofArguments_eq_ok_iff.2 ⟨given, hr, hnodup, hmade⟩,
    ofArguments_eq_ok_iff.2 ⟨given', hr', (hperm.map Setting.opt).nodup_iff.1 hnodup, ?_⟩⟩
  exact hmade.of_perm hperm

/-- A negative year, a form of the report and a path that is a lone dash, in two orders and in
different spellings, once with two dashes at the end. -/
theorem ofArguments_accepts_grammar_reordered :
    let arguments := ["-b", "-050", "--format=json", "--export", "-"].map Text.bytes
    let arguments' := ["--export=-", "--birth-year=-50", "--format", "json", "--"].map Text.bytes
    Options.ofArguments arguments = .ok ⟨some (-50), none, .json, some [0x2D]⟩ ∧
      Options.ofArguments arguments' = .ok ⟨some (-50), none, .json, some [0x2D]⟩ := by
  intro arguments arguments'
  let given : List Setting := [.year .birth (-50), .format .json, .exportPath [0x2D]]
  have hyear : Numeral.Spells ['-', '5', '0'] (-50 : Int32).toInt :=
    .minus ⟨by decide, List.all_eq_true.1 (by decide)⟩
  have hyear' : Numeral.Spells ['-', '0', '5', '0'] (-50 : Int32).toInt :=
    .minus ⟨by decide, List.all_eq_true.1 (by decide)⟩
  have hpath : Gives [0x2D] (.exportPath [0x2D]) := .exportPath (by decide)
  have hr : Reads arguments given :=
    .group (.letterApart (.year .birth hyear'))
      (.group (.attached .json) (.group (.apart hpath fun _ => rfl) .nil))
  have hr' : Reads arguments' [.exportPath [0x2D], .year .birth (-50), .format .json] :=
    .group (.attached hpath)
      (.group (.attached (.year .birth hyear)) (.group (.apart .json trivial) .terminator))
  have hnodup : (given.map Setting.opt).Nodup := by decide
  obtain ⟨haccept, hsame⟩ := ofArguments_accepts_grammar arguments
  have hok := (haccept ⟨some (-50), none, .json, some [0x2D]⟩).2
    ⟨given, hr, hnodup, madeOf_apply hnodup⟩
  obtain ⟨o, ho, ho'⟩ := hsame given hr hnodup arguments' _ hr' (by decide)
  rw [hok] at ho
  exact ⟨hok, ho' ▸ ho.symm⟩

end AgeReport.CommandLine
