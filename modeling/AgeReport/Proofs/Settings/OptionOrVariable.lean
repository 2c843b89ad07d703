import AgeReport.Proofs.CommandLine.Accepted
import AgeReport.Proofs.Settings.YearTexts

/-!
# A year by its option or by its variable

The value of an option is read as an integer of 64 bits first and then checked to be a year; the
text of a variable loses the blanks around it and is read as a year at once. Both accept the same
numerals with the same values, so a year may as well be given the one way as the other.

Results:
* `readYearValue_eq_ok_iff_settleBound`: the two readings accept the same.
* `ofArguments_yearArgument`, `ofArguments_of_unread`: a command line that begins with the option.
* `settings_withYear`: the settings with the option are those with the variable.
* `yearArgument_agrees_variable`: both ways, for texts with and without blanks at their ends.
-/

namespace AgeReport

namespace Options

/-- The options with a year for a bound. -/
def withYear (o : Options) (y : Int32) : Bound → Options
  | .birth => { o with birthYear := some y }
  | .current => { o with currentYear := some y }

variable {o : Options} {b b' : Bound} {y : Int32} {lookup lookup' : Bound → Option String}

@[simp] theorem bound?_withYear_self (o : Options) (y : Int32) (b : Bound) :
    (o.withYear y b).bound? b = some y := by
  cases b <;> rfl

theorem bound?_withYear_of_ne (h : b' ≠ b) : (o.withYear y b).bound? b' = o.bound? b' := by
  cases b <;> cases b' <;> first | rfl | exact absurd rfl h

@[simp] theorem format_withYear (o : Options) (y : Int32) (b : Bound) :
    (o.withYear y b).format = o.format := by
  cases b <;> rfl

@[simp] theorem exportPath_withYear (o : Options) (y : Int32) (b : Bound) :
    (o.withYear y b).exportPath = o.exportPath := by
  cases b <;> rfl

/-- A setting for a bound that has none is one more setting. -/
theorem MadeOf.withYear {given : List CommandLine.Setting} (h : o.MadeOf given)
    (hb : o.bound? b = none) (y : Int32) : (o.withYear y b).MadeOf (.year b y :: given) where
  bound b' y' := by
    have hnot : ∀ y', CommandLine.Setting.year b y' ∉ given := by
      intro y' hmem
      rw [← h.bound, hb] at hmem
      cases hmem
    by_cases hb' : b' = b
    · subst hb'
      simp [hnot, eq_comm]
    · simp [bound?_withYear_of_ne hb', h.bound, hb']
  format f := by simpa using h.format f
  exportPath path := by simpa using h.exportPath path

/-! ## Settings with and without the option -/

/-- Given to the one bound by its option and left to the other as it was, a year makes the settings
that it makes as the text of a variable. -/
theorem settings_withYear (hvalue : o.boundValue lookup' b = .ok y)
    (hother : ∀ b', b' ≠ b → o.boundValue lookup b' = o.boundValue lookup' b') :
    (o.withYear y b).settings lookup = o.settings lookup' := by
  have hall : ∀ b', (o.withYear y b).boundValue lookup b' = o.boundValue lookup' b' := by
    intro b'
    by_cases hb' : b' = b
    · subst hb'
      rw [boundValue_of_some (o.bound?_withYear_self y b'), hvalue]
    · rw [← hother b' hb', boundValue, boundValue, bound?_withYear_of_ne hb']
  rw [settings_eq, settings_eq, hall, hall, format_withYear, exportPath_withYear]

end Options

namespace CommandLine

variable {b : Bound} {y : Int32} {e : Fault} {s t : String} {rest : List Bytes} {o : Options}
  {lookup lookup' : Bound → Option String}

/-! ## The two readings -/

theorem readYearValue_bytes :
    readYearValue b (Text.bytes t) = .ok y ↔ Numeral.Spells t.toList y.toInt := by
  rw [readYearValue_eq_ok_iff]
  constructor
  · rintro ⟨cs, hcs, hspells⟩
    have hdecode : Text.decode? (Text.bytes t) = some t.toList := Text.decode?_eq_some_iff.2 rfl
    rw [Text.decode?_eq_some_iff.2 hcs] at hdecode
    exact Option.some.inj hdecode ▸ hspells
  · intro hspells
    exact ⟨t.toList, rfl, hspells⟩

/-- An option accepts what a variable accepts with blanks around it. -/
theorem readYearValue_eq_ok_iff_settleBound (h : t.toList = Text.trim s.toList) :
    readYearValue b (Text.bytes t) = .ok y ↔ settleBound b (some s) = .ok y := by
  rw [readYearValue_bytes, settleBound_eq_ok_iff, h]

theorem exitCode_of_readYearValue {v : Bytes} (h : readYearValue b v = .error e) :
    e.exitCode = 2 := by
  unfold readYearValue at h
  split at h
  · cases h
    rfl
  split at h
  · cases h
    rfl
  split at h
  · cases h
  · cases h
    rfl

/-! ## The option in front -/

/-- The argument that gives a bound its year. -/
def yearArgument (b : Bound) (text : String) : Bytes :=
  Text.bytes (Opt.year b).longName ++ 0x3D :: Text.bytes text

/-- A year in front of a command line that does not give it. -/
theorem ofArguments_yearArgument (h : readYearValue b (Text.bytes t) = .ok y)
    (ho : Options.ofArguments rest = .ok o) (hb : o.bound? b = none) :
    Options.ofArguments (yearArgument b t :: rest) = .ok (o.withYear y b) := by
  obtain ⟨given, hr, hnodup, hmade⟩ := ofArguments_eq_ok_iff.1 ho
  have hv : Gives (Text.bytes t) (.year b y) := .year b (readYearValue_bytes.1 h)
  have hgroup : Group [yearArgument b t] (.year b y) := .attached (s := .year b y) hv
  have hnew : Opt.year b ∉ given.map Setting.opt := by
    intro hmem
    obtain ⟨s, hs, hopt⟩ := List.mem_map.1 hmem
    cases s with
    | year b' y' =>
      cases hopt
      rw [← hmade.bound, hb] at hs
      cases hs
    | format _ => cases hopt
    | exportPath _ => cases hopt
  exact ofArguments_eq_ok_iff.2
    ⟨_, .group hgroup hr, List.nodup_cons.2 ⟨hnew, hnodup⟩, hmade.withYear hb y⟩

/-- A text in front that is no year ends the reading, whatever follows it. -/
theorem ofArguments_of_unread (h : readYearValue b (Text.bytes t) = .error e)
    (rest : List Bytes) : Options.ofArguments (yearArgument b t :: rest) = .error e := by
  have hopens : Progress.Opens (yearArgument b t) (.year b) (some (Text.bytes t)) :=
    .longEquals (.year b) (Text.bytes t)
  have hcheck : check [] (.year b) (some (Text.bytes t)) = .error e := by
    rw [check, if_neg (by simp), Opt.read, h]
    rfl
  have hstep : (Progress.settled []).step (yearArgument b t) = .error e := by
    rw [Progress.step_of_opens hopens]
    change (check [] (.year b) (some (Text.bytes t)) >>= fun g => _) = _
    rw [hcheck]
    rfl
  have hparse : parse (yearArgument b t :: rest) = .error e := by
    change (Progress.settled []).finish (yearArgument b t :: rest) = _
    rw [Progress.finish_cons hopens.shape_ne, hstep]
    rfl
  rw [Options.ofArguments, hparse]
  rfl

/-! ## Both ways -/

/-- What is left of a text after trimming makes the same settings as an option as the text itself
makes as that of the variable, or both fail. -/
theorem yearArgument_trimmed (ho : Options.ofArguments rest = .ok o) (hb : o.bound? b = none)
    (hs : lookup' b = some s)
    (hother : ∀ b', b' ≠ b → o.bound? b' = none → lookup b' = lookup' b')
    (hvalid : ∀ b', b' ≠ b → ∃ y, o.boundValue lookup b' = .ok y)
    (ht : t.toList = Text.trim s.toList) :
    (∃ o' r, Options.ofArguments (yearArgument b t :: rest) = .ok o' ∧
      o'.settings lookup = .ok r ∧ o.settings lookup' = .ok r) ∨
    ∃ e fault, Options.ofArguments (yearArgument b t :: rest) = .error e ∧ e.exitCode = 2 ∧
      o.settings lookup' = .error (.invalidYear b s fault) := by
  have hsame : ∀ b', b' ≠ b → o.boundValue lookup b' = o.boundValue lookup' b' :=
    fun b' hb' => Options.boundValue_congr (hother b' hb')
  have hvalid' : ∀ b', b' ≠ b → ∃ y, o.boundValue lookup' b' = .ok y :=
    fun b' hb' => hsame b' hb' ▸ hvalid b' hb'
  have hsettle : o.boundValue lookup' b = settleBound b (some s) := by
    rw [Options.boundValue_of_none hb, hs]
  cases hread : readYearValue b (Text.bytes t) with
  | ok y =>
    have hvalue : o.boundValue lookup' b = .ok y :=
      hsettle.trans ((readYearValue_eq_ok_iff_settleBound ht).1 hread)
    obtain ⟨r, hr⟩ : ∃ r, o.settings lookup' = .ok r := by
      refine Options.exists_settings fun b' => ?_
      by_cases hb' : b' = b
      · exact ⟨y, hb' ▸ hvalue⟩
      · exact hvalid' b' hb'
    exact .inl ⟨o.withYear y b, r, ofArguments_yearArgument hread ho hb,
      (Options.settings_withYear hvalue hsame).trans hr, hr⟩
  | error e =>
    cases hvalue : settleBound b (some s) with
    | ok y =>
      rw [(readYearValue_eq_ok_iff_settleBound ht).2 hvalue] at hread
      cases hread
    | error f =>
      obtain ⟨fault, -, rfl⟩ := settleBound_eq_error_iff.1 hvalue
      exact .inr ⟨e, fault, ofArguments_of_unread hread rest, exitCode_of_readYearValue hread,
        Options.settings_of_error (hsettle.trans hvalue) hvalid'⟩

/-- A text with blanks at its ends is no value of the option. -/
theorem yearArgument_of_not_bare (h : ¬ Text.Bare s.toList) (rest : List Bytes) :
    ∃ e, Options.ofArguments (yearArgument b s :: rest) = .error e ∧ e.exitCode = 2 := by
  cases hread : readYearValue b (Text.bytes s) with
  | ok y => exact absurd (Numeral.bare_of_spells (readYearValue_bytes.1 hread)) h
  | error e => exact ⟨e, ofArguments_of_unread hread rest, exitCode_of_readYearValue hread⟩

/-- **An option or a variable.** Let the rest of the command line and the environment give the other
bound a year, and neither give this bound an option. A text without blanks at its ends makes the
same settings as the value of the option, whatever the variable says then, as it makes as the text
of the variable; or it makes none both ways, with code 2, and the variable is named. A text with
blanks at its ends is refused as the value of the option, and accepted as that of the variable
exactly if the option accepts it without them; both then make the same settings. -/
theorem yearArgument_agrees_variable (ho : Options.ofArguments rest = .ok o)
    (hb : o.bound? b = none) (hs : lookup' b = some s)
    (hother : ∀ b', b' ≠ b → o.bound? b' = none → lookup b' = lookup' b')
    (hvalid : ∀ b', b' ≠ b → ∃ y, o.boundValue lookup b' = .ok y) :
    (Text.Bare s.toList →
      (∃ o' r, Options.ofArguments (yearArgument b s :: rest) = .ok o' ∧
        o'.settings lookup = .ok r ∧ o.settings lookup' = .ok r) ∨
      ∃ e f, Options.ofArguments (yearArgument b s :: rest) = .error e ∧ e.exitCode = 2 ∧
        o.settings lookup' = .error f ∧ ∃ reason,
          f.exitError = ⟨2, "Invalid " ++ b.variableName ++ "='" ++ s ++ "': " ++ reason⟩) ∧
    (¬ Text.Bare s.toList →
      let trimmed := String.ofList (Text.trim s.toList)
      (∃ e, Options.ofArguments (yearArgument b s :: rest) = .error e ∧ e.exitCode = 2) ∧
      ((∃ r, o.settings lookup' = .ok r) ↔
        ∃ o', Options.ofArguments (yearArgument b trimmed :: rest) = .ok o') ∧
      ∀ o', Options.ofArguments (yearArgument b trimmed :: rest) = .ok o' →
        o'.settings lookup = o.settings lookup') := by
  constructor
  · intro hbare
    rcases yearArgument_trimmed ho hb hs hother hvalid (Text.trim_eq_self_iff.2 hbare).symm with
      hboth | ⟨e, fault, he, hcode, hsettings⟩
    · exact .inl hboth
    · exact .inr ⟨e, _, he, hcode, hsettings, fault.message, rfl⟩
  · intro hbare trimmed
    have ht : trimmed.toList = Text.trim s.toList := String.toList_ofList
    refine ⟨yearArgument_of_not_bare hbare rest, ?_⟩
    rcases yearArgument_trimmed ho hb hs hother hvalid ht with
      ⟨o', r, ho', hr, hr'⟩ | ⟨e, fault, he, -, hsettings⟩
    · refine ⟨iff_of_true ⟨r, hr'⟩ ⟨o', ho'⟩, ?_⟩
      intro o'' ho''
      rw [ho'] at ho''
      cases ho''
      rw [hr, hr']
    · refine ⟨iff_of_false ?_ ?_, ?_⟩
      · rintro ⟨r, hr⟩
        rw [hsettings] at hr
        cases hr
      · rintro ⟨o', ho'⟩
        rw [he] at ho'
        cases ho'
      · intro o' ho'
        rw [he] at ho'
        cases ho'

/-- A negative year between blanks, as a variable and, without them, as an option. -/
theorem yearArgument_agrees_variable_padded :
    let rest := [Text.bytes "--format=json"]
    let o : Options := { format := .json }
    let lookup : Bound → Option String
      | .birth => some "1990"
      | .current => some "next year"
    let lookup' : Bound → Option String
      | .birth => some "1990"
      | .current => some "\u00A0-050\t"
    let r : RunSettings := ⟨⟨1990, -50⟩, .json, none⟩
    (∃ e, Options.ofArguments (yearArgument .current "\u00A0-050\t" :: rest) = .error e ∧
      e.exitCode = 2) ∧
    ∃ o', Options.ofArguments (yearArgument .current "-050" :: rest) = .ok o' ∧
      o'.settings lookup = .ok r ∧ o.settings lookup' = .ok r := by
  intro rest o lookup lookup' r
  have hreads : Reads rest [.format .json] := .group (.attached .json) .nil
  have hnodup : ([.format .json].map Setting.opt).Nodup := by decide
  have ho : Options.ofArguments rest = .ok o :=
    ofArguments_eq_ok_iff.2 ⟨_, hreads, hnodup, madeOf_apply hnodup⟩
  have hs : lookup' .current = some "\u00A0-050\t" := rfl
  have hr : o.settings lookup' = .ok r := by rfl
  have hother : ∀ b' : Bound, b' ≠ .current → o.bound? b' = none → lookup b' = lookup' b' := by
    intro b' hb' _
    cases b' with
    | birth => rfl
    | current => exact absurd rfl hb'
  have hvalid : ∀ b' : Bound, b' ≠ .current → ∃ y, o.boundValue lookup b' = .ok y := by
    intro b' hb'
    cases b' with
    | birth => exact ⟨1990, rfl⟩
    | current => exact absurd rfl hb'
  have hbare : ¬ Text.Bare "\u00A0-050\t".toList := by
    intro h
    exact absurd (h '\t' (.inr rfl)) (by decide)
  obtain ⟨-, hpadded⟩ := yearArgument_agrees_variable ho rfl hs hother hvalid
  obtain ⟨hrefused, haccepted, hsame⟩ := hpadded hbare
  obtain ⟨o', ho'⟩ := haccepted.1 ⟨r, hr⟩
  exact ⟨hrefused, o', ho', (hsame o' ho').trans hr, hr⟩

end CommandLine
end AgeReport
