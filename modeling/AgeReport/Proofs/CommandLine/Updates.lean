import AgeReport.Proofs.CommandLine.Accepted

/-!
# Command lines one after the other

Options may be kept and changed by further command lines. A line is read as it would be alone; only
if it is accepted do its settings take the place of those that hold. An option that the line does
not give stays as it was, except that the form of the report, which has a standard value, is set by
every line.

So what holds after any number of lines is found by looking back: to the last accepted line that
gave the option, or, for the form, to the last accepted line. The step of one line says which
settings decide; the run follows by induction on the lines, for any options at the beginning.

Results:
* `reapply_of_accepts`, `reapply_of_refused`: one line.
* `holds_applyInTurn`: what holds after lines, by the last of them that decides it.
* `applyInTurn_history`: lines from the standard options on.
-/

namespace AgeReport

open CommandLine

namespace CommandLine

/-- The arguments are accepted, and make these settings. -/
def Accepts (arguments : List Bytes) (given : List Setting) : Prop :=
  Reads arguments given ∧ (given.map Setting.opt).Nodup

/-- The fault of a reading that has come to one. -/
def fault? {α : Type} : Except Fault α → Option Fault
  | .error f => some f
  | .ok _ => none

/-- Of the accepted lines whose settings decide, the last one has settings of which `p` holds. -/
def LastDecides (p decides : List Setting → Prop) (lines : List (List Bytes)) : Prop :=
  ∃ before arguments after given, lines = before ++ arguments :: after ∧
    Accepts arguments given ∧ p given ∧
    ∀ later ∈ after, ∀ given', Accepts later given' → ¬ decides given'

/-- No accepted line has settings that decide. -/
def NoneDecides (decides : List Setting → Prop) (lines : List (List Bytes)) : Prop :=
  ∀ arguments ∈ lines, ∀ given, Accepts arguments given → ¬ decides given

end CommandLine

namespace Options

/-- Changes the options by a further command line: its fault, if it has one, and the options that
hold then. -/
def reapply (o : Options) (arguments : List Bytes) : Option Fault × Options :=
  match o.update arguments with
  | .error f => (some f, o)
  | .ok o' => (none, o')

/-- Changes the options by command lines one after the other: what each of them comes to, and the
options that hold at the end. -/
def applyInTurn (o : Options) : List (List Bytes) → List (Option Fault) × Options
  | [] => ([], o)
  | arguments :: rest =>
    let (f, next) := o.reapply arguments
    let (fs, last) := next.applyInTurn rest
    (f :: fs, last)

variable {o : Options} {arguments : List Bytes} {given given' : List Setting}
  {lines : List (List Bytes)}

/-! ## One line -/

theorem accepts_iff : Accepts arguments given ↔ parse arguments = .ok given :=
  parse_eq_ok_iff.symm

/-- A line makes its settings in one way only. -/
theorem eq_of_accepts (h : Accepts arguments given) (h' : Accepts arguments given') :
    given = given' :=
  Except.ok.inj ((accepts_iff.1 h).symm.trans (accepts_iff.1 h'))

theorem reapply_of_accepts (h : Accepts arguments given) (o : Options) :
    o.reapply arguments = (none, o.apply given) := by
  rw [reapply, update, accepts_iff.1 h]
  rfl

theorem reapply_of_refused (h : ∀ given, ¬ Accepts arguments given) (o : Options) :
    (o.reapply arguments).2 = o := by
  rw [reapply, update]
  cases hparse : parse arguments with
  | error f => rfl
  | ok given => exact absurd (accepts_iff.2 hparse) (h given)

/-- Whatever holds before, a line is accepted or refused, and with the same fault, as alone. -/
theorem fst_reapply (o : Options) (arguments : List Bytes) :
    (o.reapply arguments).1 = fault? (ofArguments arguments) := by
  rw [reapply, update, ofArguments]
  cases parse arguments <;> rfl

/-! ## The settings of one line -/

/-- A value that one option sets, and that stays as it was if the line does not give the option. -/
theorem or_eq_some_iff_mem {α : Type} {x z : Option α} {v : α} {make : α → Setting} {opt : Opt}
    (hmem : ∀ v, x = some v ↔ make v ∈ given) (hopt : ∀ s : Setting, s.opt = opt ↔ ∃ v, s = make v) :
    x.or z = some v ↔ make v ∈ given ∨ opt ∉ given.map Setting.opt ∧ z = some v := by
  have hnone : x = none ↔ opt ∉ given.map Setting.opt := by
    rw [Option.eq_none_iff_forall_ne_some, List.mem_map]
    constructor
    · rintro h ⟨s, hs, hsopt⟩
      obtain ⟨v, rfl⟩ := (hopt s).1 hsopt
      exact h v ((hmem v).2 hs)
    · intro h v hv
      exact h ⟨make v, (hmem v).1 hv, (hopt _).2 ⟨v, rfl⟩⟩
  rw [Option.or_eq_some_iff, hmem, hnone]

theorem bound?_apply_eq_some_iff {b : Bound} {y : Int32}
    (hnodup : (given.map Setting.opt).Nodup) (o : Options) :
    (o.apply given).bound? b = some y ↔
      .year b y ∈ given ∨ .year b ∉ given.map Setting.opt ∧ o.bound? b = some y := by
  have hor : (o.apply given).bound? b = (yearOf? given b).or (o.bound? b) := by cases b <;> rfl
  rw [hor]
  refine or_eq_some_iff_mem (fun y => yearOf?_eq_some_iff hnodup) ?_
  rintro (_ | _ | _) <;> simp [Setting.opt]

theorem exportPath_apply_eq_some_iff {path : Bytes}
    (hnodup : (given.map Setting.opt).Nodup) (o : Options) :
    (o.apply given).exportPath = some path ↔
      .exportPath path ∈ given ∨ .exportPath ∉ given.map Setting.opt ∧ o.exportPath = some path := by
  refine or_eq_some_iff_mem (fun path => exportPathOf?_eq_some_iff hnodup) ?_
  rintro (_ | _ | _) <;> simp [Setting.opt]

/-- The form is set by every line; what held before does not matter. -/
theorem format_apply_eq_iff {f : OutputFormat} (hnodup : (given.map Setting.opt).Nodup)
    (o : Options) :
    (o.apply given).format = f ↔ .format f ∈ given ∨ f = .text ∧ ∀ f', .format f' ∉ given :=
  (madeOf_apply hnodup).format f

/-! ## Lines one after the other -/

section Run

variable (holds : Options → Prop) (p decides : List Setting → Prop)

/-- What holds after one line, where its settings make it hold, or else decide that it does not, or
else leave it as it was; a line that is refused has no settings. -/
theorem holds_reapply
    (hline : ∀ (o : Options) (given : List Setting), (given.map Setting.opt).Nodup →
      (holds (o.apply given) ↔ p given ∨ ¬ decides given ∧ holds o))
    (o : Options) (arguments : List Bytes) :
    holds (o.reapply arguments).2 ↔
      (∃ given, Accepts arguments given ∧ p given) ∨
        (∀ given, Accepts arguments given → ¬ decides given) ∧ holds o := by
  by_cases haccepted : ∃ given, Accepts arguments given
  · obtain ⟨given, haccept⟩ := haccepted
    have hsome : (∃ given', Accepts arguments given' ∧ p given') ↔ p given := by
      refine ⟨?_, fun hp => ⟨given, haccept, hp⟩⟩
      rintro ⟨given', haccept', hp⟩
      exact eq_of_accepts haccept haccept' ▸ hp
    have hall : (∀ given', Accepts arguments given' → ¬ decides given') ↔ ¬ decides given := by
      refine ⟨fun h => h given haccept, ?_⟩
      rintro h given' haccept'
      exact eq_of_accepts haccept haccept' ▸ h
    rw [reapply_of_accepts haccept, hline o given haccept.2, hsome, hall]
  · have hrefused : ∀ given, ¬ Accepts arguments given := fun given h => haccepted ⟨given, h⟩
    rw [reapply_of_refused hrefused]
    simp [hrefused]

theorem lastDecides_cons (arguments : List Bytes) (lines : List (List Bytes)) :
    LastDecides p decides (arguments :: lines) ↔
      (∃ given, Accepts arguments given ∧ p given) ∧ NoneDecides decides lines ∨
        LastDecides p decides lines := by
  constructor
  · rintro ⟨_ | ⟨_, before⟩, a, after, given, heq, haccept, hp, hafter⟩
    · cases heq
      exact .inl ⟨⟨given, haccept, hp⟩, hafter⟩
    · cases heq
      exact .inr ⟨before, a, after, given, rfl, haccept, hp, hafter⟩
  · rintro (⟨⟨given, haccept, hp⟩, hafter⟩ | ⟨before, a, after, given, rfl, hrest⟩)
    · exact ⟨[], arguments, lines, given, rfl, haccept, hp, hafter⟩
    · exact ⟨arguments :: before, a, after, given, rfl, hrest⟩

theorem noneDecides_cons (arguments : List Bytes) (lines : List (List Bytes)) :
    NoneDecides decides (arguments :: lines) ↔
      (∀ given, Accepts arguments given → ¬ decides given) ∧ NoneDecides decides lines :=
  List.forall_mem_cons

theorem snd_applyInTurn_cons (o : Options) (arguments : List Bytes) (lines : List (List Bytes)) :
    (o.applyInTurn (arguments :: lines)).2 = ((o.reapply arguments).2.applyInTurn lines).2 := rfl

/-- **What holds after lines** is what the last line says that decides it, and without such a line
what held before. -/
theorem holds_applyInTurn
    (hline : ∀ (o : Options) (given : List Setting), (given.map Setting.opt).Nodup →
      (holds (o.apply given) ↔ p given ∨ ¬ decides given ∧ holds o))
    (o : Options) (lines : List (List Bytes)) :
    holds (o.applyInTurn lines).2 ↔
      LastDecides p decides lines ∨ NoneDecides decides lines ∧ holds o := by
  induction lines generalizing o with
  | nil => simp [applyInTurn, LastDecides, NoneDecides]
  | cons arguments lines ih =>
    rw [snd_applyInTurn_cons, ih, holds_reapply holds p decides hline, lastDecides_cons,
      noneDecides_cons]
    constructor
    · rintro (hlater | ⟨hnone, hfirst | ⟨hkept, ho⟩⟩)
      · exact .inl (.inr hlater)
      · exact .inl (.inl ⟨hfirst, hnone⟩)
      · exact .inr ⟨⟨hkept, hnone⟩, ho⟩
    · rintro ((⟨hfirst, hnone⟩ | hlater) | ⟨⟨hkept, hnone⟩, ho⟩)
      · exact .inr ⟨hnone, .inl hfirst⟩
      · exact .inl hlater
      · exact .inr ⟨hnone, .inr ⟨hkept, ho⟩⟩

end Run

theorem fst_applyInTurn (o : Options) (lines : List (List Bytes)) :
    (o.applyInTurn lines).1 = lines.map fun arguments => fault? (ofArguments arguments) := by
  induction lines generalizing o with
  | nil => rfl
  | cons arguments lines ih =>
    rw [List.map_cons, ← fst_reapply o, ← ih (o.reapply arguments).2]
    rfl

theorem snd_applyInTurn_concat (o : Options) (lines : List (List Bytes)) (arguments : List Bytes) :
    (o.applyInTurn (lines ++ [arguments])).2 = ((o.applyInTurn lines).2.reapply arguments).2 := by
  induction lines generalizing o with
  | nil => rfl
  | cons first lines ih => exact ih (o.reapply first).2

/-- **Command lines one after the other.** Each comes to what it comes to alone. After any number of
them a bound and the path of the export are those of the last accepted line that gave them, if there
is one, and the form of the report is that of the last accepted line, which is the standard one if
that line gave none. A line with a fault changes nothing. -/
theorem applyInTurn_history (lines : List (List Bytes)) (n : Nat) :
    let after (n : Nat) : Options := (({} : Options).applyInTurn (lines.take n)).2
    (({} : Options).applyInTurn lines).1 = lines.map (fun a => fault? (ofArguments a)) ∧
      (∀ arguments f, lines[n]? = some arguments → ofArguments arguments = .error f →
        after (n + 1) = after n) ∧
      (∀ b y, (after n).bound? b = some y ↔
        LastDecides (.year b y ∈ ·) (.year b ∈ ·.map Setting.opt) (lines.take n)) ∧
      (∀ path, (after n).exportPath = some path ↔
        LastDecides (.exportPath path ∈ ·) (.exportPath ∈ ·.map Setting.opt) (lines.take n)) ∧
      ∀ f, (after n).format = f ↔
        LastDecides (fun given => .format f ∈ given ∨ f = .text ∧ ∀ f', .format f' ∉ given)
          (fun _ => True) (lines.take n) ∨
        NoneDecides (fun _ => True) (lines.take n) ∧ f = .text := by
  intro after
  refine ⟨fst_applyInTurn _ _, ?_, ?_, ?_, ?_⟩
  · intro arguments f hline hfault
    have hrefused : ∀ given, ¬ Accepts arguments given := by
      intro given haccept
      rw [ofArguments, accepts_iff.1 haccept] at hfault
      cases hfault
    change (({} : Options).applyInTurn (lines.take (n + 1))).2 = _
    rw [List.take_add_one, hline, Option.toList_some, snd_applyInTurn_concat,
      reapply_of_refused hrefused]
  · intro b y
    refine (holds_applyInTurn (·.bound? b = some y) _ _
      (fun o given hnodup => bound?_apply_eq_some_iff hnodup o) {} _).trans ?_
    cases b <;> simp [bound?]
  · intro path
    refine (holds_applyInTurn (·.exportPath = some path) _ _
      (fun o given hnodup => exportPath_apply_eq_some_iff hnodup o) {} _).trans ?_
    simp
  · intro f
    refine (holds_applyInTurn (·.format = f)
      (fun given => .format f ∈ given ∨ f = .text ∧ ∀ f', .format f' ∉ given) (fun _ => True)
      ?_ {} _).trans ?_
    · intro o given hnodup
      simpa using format_apply_eq_iff hnodup o
    · rw [eq_comm (a := f)]

/-- A line that gives a year and a form, one whose last value is no year, and one that gives the
other year. The second is refused though its first two options can be used; the third sets the form
back and keeps the first year. -/
theorem applyInTurn_history_refused :
    let refused := ["-c", "2010", "--export", "x", "-b", "abc"].map Text.bytes
    let lines := [["-b2000", "--format=json"].map Text.bytes, refused, ["-c=-5"].map Text.bytes]
    let after (n : Nat) : Options := (({} : Options).applyInTurn (lines.take n)).2
    ofArguments refused = .error (.yearUnreadable .birth "abc" .invalidDigit) ∧
      after 1 = ⟨some 2000, none, .json, none⟩ ∧ after 2 = after 1 ∧
      after 3 = ⟨some 2000, some (-5), .text, none⟩ ∧
      LastDecides (.year .birth 2000 ∈ ·) (.year .birth ∈ ·.map Setting.opt) lines ∧
      (({} : Options).applyInTurn lines).1 =
        [none, some (.yearUnreadable .birth "abc" .invalidDigit), none] := by
  intro refused lines after
  have hfault : ofArguments refused = .error (.yearUnreadable .birth "abc" .invalidDigit) := by
    decide +kernel
  have hall : after 3 = ⟨some 2000, some (-5), .text, none⟩ := by decide +kernel
  obtain ⟨hfaults, hkept, -, -, -⟩ := applyInTurn_history lines 1
  obtain ⟨-, -, hbound, -, -⟩ := applyInTurn_history lines 3
  refine ⟨hfault, by decide +kernel, hkept refused _ rfl hfault, hall, ?_, ?_⟩
  · exact (hbound .birth 2000).1 (congrArg Options.birthYear hall)
  · rw [hfaults]
    decide +kernel

end Options
end AgeReport
