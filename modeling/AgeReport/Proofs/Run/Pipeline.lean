import AgeReport.Proofs.Output.Buffered
import AgeReport.Proofs.Run.Order
import AgeReport.Proofs.Settings.Resolution

/-!
# The program and its library calls

The program makes three calls, each only if the one before came out well: it reads the command
line, settles the bounds, and performs the settings. Around them it puts a buffer before standard
output, and turns the end into an exit code and a message. Neither changes what the calls do, so
a run shows what the calls come to on a sink without limits.

Results:
* `outcome_keeping`: performing the settings behind a buffer, from performing them on a sink.
* `conclude_keeping`: the end of a run, from its library calls.
* `run_refines_library`: the exit code, both streams and the files, by the stage that ends the run.
-/

namespace AgeReport

/-! ## Performing the settings -/

/-- The message of a failure as it stands on standard error. -/
def Failure.told (f : Failure) : Bytes :=
  Text.bytes (f.exitError.message ++ "\n")

theorem Outcome.ofFailure_eq {f : Failure} {code : UInt8} (h : f.exitError.exitCode = code)
    (written : Bytes) : Outcome.ofFailure f written = ⟨code, written, f.told⟩ := by
  rw [← h]
  rfl

/-- What the program shows of settings that were performed on a sink. -/
def Outcome.ofObservation (seen : Observation) : Outcome :=
  match seen.failure? with
  | none => ⟨0, seen.held, []⟩
  | some f => .ofFailure f seen.held

theorem YearSpan.failure?_observe_writeReport (s : YearSpan) (format : OutputFormat) :
    (Sink.observe (s.writeReport format) {}).failure? = none := by
  rw [s.observe_writeReport format Sink.fair_default]
  rfl

namespace RunSettings

variable {r : RunSettings} {cwd : Location} {fs : FileSystem}

/-- A run on a sink without limits fails only if its export does. -/
theorem performExport_of_failure? {f : Failure}
    (h : (r.observe cwd {} fs).1.failure? = some f) :
    ∃ fs', r.performExport cwd fs = .error f fs' := by
  have hreport := r.span.failure?_observe_writeReport r.format
  cases hexport : r.performExport cwd fs with
  | ok u fs' =>
    rw [observe_of_both hreport hexport, hreport] at h
    cases h
  | error e fs' =>
    rw [observe_of_export_failed hreport hexport] at h
    cases h
    exact ⟨fs', rfl⟩

/-- Whatever becomes of the export, the sink holds the complete report. -/
theorem held_observe (r : RunSettings) (cwd : Location) (fs : FileSystem) :
    (r.observe cwd {} fs).1.held = r.span.reportText r.format := by
  have hreport := r.span.failure?_observe_writeReport r.format
  rw [← r.span.held_observe_writeReport r.format]
  cases hexport : r.performExport cwd fs with
  | ok u fs' => rw [observe_of_both hreport hexport]
  | error e fs' => rw [observe_of_export_failed hreport hexport]

/-- Of a run that fails the complete report is seen, and the message of the export. -/
theorem ofObservation_of_failed {f : Failure} (h : (r.observe cwd {} fs).1.failure? = some f) :
    Outcome.ofObservation (r.observe cwd {} fs).1 =
      ⟨4, r.span.reportText r.format, f.told⟩ := by
  obtain ⟨fs', hexport⟩ := performExport_of_failure? h
  rw [Outcome.ofObservation, h, held_observe]
  exact Outcome.ofFailure_eq (exitCode_of_performExport hexport) _

/-- Of a run that succeeds the report is seen, and nothing else. -/
theorem ofObservation_of_succeeded (h : (r.observe cwd {} fs).1.failure? = none) :
    Outcome.ofObservation (r.observe cwd {} fs).1 = ⟨0, r.span.reportText r.format, []⟩ := by
  rw [Outcome.ofObservation, h, held_observe]

/-- The buffer before standard output takes nothing from what is seen. -/
theorem outcome_keeping {i : Invocation} (h : i.stdout = .keeping) :
    r.outcome i fs =
      (.ofObservation (r.observe i.cwd {} fs).1, (r.observe i.cwd {} fs).2) := by
  obtain ⟨b, hwrite, hheld⟩ :=
    r.span.writeReport_buffered r.format (b := { device := { medium := i.stdout } }) h
  have hrun : r.perform i.cwd ⟨{ device := { medium := i.stdout } }, fs⟩ =
      onFiles (r.performExport i.cwd) ⟨b, fs⟩ := perform_of_report_ok hwrite
  have hreport := r.span.failure?_observe_writeReport r.format
  have htext := r.span.held_observe_writeReport r.format
  cases hexport : r.performExport i.cwd fs with
  | ok u fs' =>
    have hend := hrun.trans (onFiles_of_ok hexport)
    have hseen := observe_of_both hreport hexport
    simp only [outcome, hend, hseen, Outcome.ofObservation, hreport, htext, hheld]
    rfl
  | error f fs' =>
    have hend := hrun.trans (onFiles_of_error hexport)
    have hseen := observe_of_export_failed hreport hexport
    simp only [outcome, hend, hseen, Outcome.ofObservation, htext, hheld]
    rfl

end RunSettings

/-! ## The calls of a run -/

/-- How the library calls of a run end. -/
inductive Ending
  /-- The command line makes no options. -/
  | refused (f : CommandLine.Fault)
  /-- The options and the texts make no settings. -/
  | unsettled (f : Failure)
  /-- The settings have been performed, and this is seen of it. -/
  | performed (r : RunSettings) (seen : Observation)
deriving DecidableEq

/-- The library calls of a run on a sink without limits, with the files after them. -/
def libraryCalls (arguments : List Bytes) (lookup : Bound → Option String) (cwd : Location)
    (fs : FileSystem) : Ending × FileSystem :=
  match Options.ofArguments arguments with
  | .error f => (.refused f, fs)
  | .ok o =>
    match o.settings lookup with
    | .error f => (.unsettled f, fs)
    | .ok r => (.performed r (r.observe cwd {} fs).1, (r.observe cwd {} fs).2)

/-- What the program shows of its calls. -/
def Outcome.ofEnding : Ending → Outcome
  | .refused f => .ofFault .keeping f
  | .unsettled f => .ofFailure f []
  | .performed _ seen => .ofObservation seen

section Calls

variable {arguments : List Bytes} {lookup : Bound → Option String} {cwd : Location}
  {fs : FileSystem}

theorem ofArguments_of_refused {f : CommandLine.Fault}
    (h : (libraryCalls arguments lookup cwd fs).1 = .refused f) :
    Options.ofArguments arguments = .error f ∧ (libraryCalls arguments lookup cwd fs).2 = fs := by
  unfold libraryCalls at h ⊢
  split at h
  · cases h
    exact ⟨‹_›, rfl⟩
  · split at h <;> cases h

theorem settings_of_unsettled {f : Failure}
    (h : (libraryCalls arguments lookup cwd fs).1 = .unsettled f) :
    ∃ o, Options.ofArguments arguments = .ok o ∧ o.settings lookup = .error f ∧
      (libraryCalls arguments lookup cwd fs).2 = fs := by
  unfold libraryCalls at h ⊢
  split at h
  · cases h
  · split at h
    · cases h
      exact ⟨_, ‹_›, ‹_›, rfl⟩
    · cases h

theorem libraryCalls_of_settings {o : Options} {r : RunSettings}
    (ho : Options.ofArguments arguments = .ok o) (hs : o.settings lookup = .ok r)
    (cwd : Location) (fs : FileSystem) :
    libraryCalls arguments lookup cwd fs =
      (.performed r (r.observe cwd {} fs).1, (r.observe cwd {} fs).2) := by
  rw [libraryCalls, ho]
  dsimp only
  rw [hs]

theorem observe_of_performed {r : RunSettings} {seen : Observation}
    (h : (libraryCalls arguments lookup cwd fs).1 = .performed r seen) :
    seen = (r.observe cwd {} fs).1 := by
  unfold libraryCalls at h
  split at h
  · cases h
  · split at h
    · cases h
    · cases h
      rfl

end Calls

/-! ## A run from its calls -/

variable {i : Invocation} {fs : FileSystem}

/-- The end of a run whose command line has been read: the settings are performed, or the failure
that keeps them from being made is told. -/
def Invocation.conclude (i : Invocation) (fs : FileSystem) :
    Except Failure RunSettings → Outcome × FileSystem
  | .error f => (.ofFailure f [], fs)
  | .ok r => r.outcome i fs

theorem run_of_refused {f : CommandLine.Fault} (h : Options.ofArguments i.arguments = .error f)
    (fs : FileSystem) : run i fs = (.ofFault i.stdout f, fs) := by
  rw [run, h]

/-- Once the settings file has been read, a run with a good command line is up to its settings. -/
theorem run_of_loaded {o : Options} {e : Environment} (h : Options.ofArguments i.arguments = .ok o)
    (he : i.loadedEnvironment fs = .ok e) :
    run i fs = i.conclude fs (o.settings e.boundText?) := by
  rw [run, h]
  dsimp only
  rw [he, Options.prepare]
  cases o.settings e.boundText? <;> rfl

/-- A settings file that cannot be loaded crashes a run with a good command line. -/
theorem run_of_crash {o : Options} {r : Environment.Refusal}
    (h : Options.ofArguments i.arguments = .ok o) (hr : i.loadedEnvironment fs = .error r) :
    run i fs = (⟨101, [], i.crashReport r.message⟩, fs) := by
  rw [run, h]
  dsimp only
  rw [hr]
  rfl

/-- With a standard output that keeps everything, the end of a run shows what the library calls
come to. -/
theorem conclude_keeping {o : Options} (ho : Options.ofArguments i.arguments = .ok o)
    (hout : i.stdout = .keeping) (lookup : Bound → Option String) :
    i.conclude fs (o.settings lookup) =
      (.ofEnding (libraryCalls i.arguments lookup i.cwd fs).1,
        (libraryCalls i.arguments lookup i.cwd fs).2) := by
  rw [libraryCalls, ho]
  dsimp only
  cases o.settings lookup with
  | error f => rfl
  | ok r => exact RunSettings.outcome_keeping hout

/-! ## A run without a settings file -/

/-- The environment in which every value is a text. -/
def Environment.ofTexts (texts : List (String × String)) : Environment :=
  ⟨texts.map fun v => (v.1, Text.bytes v.2)⟩

theorem Environment.text?_ofTexts (texts : List (String × String)) (name : String) :
    (Environment.ofTexts texts).text? name = texts.lookup name := by
  show ((texts.map fun v => (v.1, Text.bytes v.2)).lookup name).bind Text.text? = texts.lookup name
  induction texts with
  | nil => rfl
  | cons v texts ih =>
    obtain ⟨n, value⟩ := v
    rw [List.map_cons, List.lookup_cons, List.lookup_cons]
    cases name == n with
    | true => exact Text.text?_bytes value
    | false => exact ih

theorem loadedEnvironment_of_none (h : fs.nearestFile? settingsFileName i.cwd = none) :
    i.loadedEnvironment fs = .ok i.environment := by
  rw [Invocation.loadedEnvironment, h]
  rfl

/-- A run without a settings file shows what its library calls come to. -/
theorem run_eq_libraryCalls (hfile : fs.nearestFile? settingsFileName i.cwd = none)
    (hout : i.stdout = .keeping) :
    run i fs =
      (.ofEnding (libraryCalls i.arguments i.environment.boundText? i.cwd fs).1,
        (libraryCalls i.arguments i.environment.boundText? i.cwd fs).2) := by
  cases ho : Options.ofArguments i.arguments with
  | error f =>
    rw [run_of_refused ho, libraryCalls, ho, hout]
    rfl
  | ok o => rw [run_of_loaded ho (loadedEnvironment_of_none hfile), conclude_keeping ho hout]

/-! ## The stage that ends a run -/

theorem Outcome.ofFault_of_isRequest {f : CommandLine.Fault} (h : f.isRequest = true)
    (stdout : Medium) :
    (Outcome.ofFault stdout f).code = 0 ∧ (Outcome.ofFault stdout f).stderr = [] := by
  simp [ofFault, h, CommandLine.Fault.exitCode]

theorem Outcome.ofFault_of_not_isRequest {f : CommandLine.Fault} (h : f.isRequest = false)
    (stdout : Medium) :
    (Outcome.ofFault stdout f).code = 2 ∧ (Outcome.ofFault stdout f).stdout = [] := by
  simp [ofFault, h, CommandLine.Fault.exitCode]

theorem run_of_unsettled {o : Options} {e : Environment} {f : Failure}
    (ho : Options.ofArguments i.arguments = .ok o) (he : i.loadedEnvironment fs = .ok e)
    (hs : o.settings e.boundText? = .error f) : run i fs = (⟨2, [], f.told⟩, fs) := by
  rw [run_of_loaded ho he, hs]
  exact congrArg (·, fs) (Outcome.ofFailure_eq (Options.exitCode_of_settings hs) [])

/-- **The program refines its library calls.** Without a settings file on the way up from the
working directory, with texts for all variables and a standard output that keeps everything, the
files are what the calls make of them, and the exit code names the stage that ends the run: a
request is answered with code 0, a fault of the command line and settings that cannot be made end
with code 2 and nothing on standard output, a failed export with code 4 behind the complete report,
and everything else with code 0 and the report. The stage that ends a run hides all later ones. -/
theorem run_refines_library (i : Invocation) (texts : List (String × String)) (fs : FileSystem)
    (henv : i.environment = .ofTexts texts) (hout : i.stdout = .keeping)
    (hfile : ∀ place, place <:+ i.cwd → ∀ content,
      fs.node? (settingsFileName :: place) ≠ some (.file content)) :
    let full (r : RunSettings) := (Sink.observe (r.span.writeReport r.format) {}).held
    let calls := libraryCalls i.arguments (fun b => texts.lookup b.variableName) i.cwd fs
    let seen := run i fs
    seen.2 = calls.2 ∧
    (∀ f, calls.1 = .refused f → f.isRequest = true →
      seen.1.code = 0 ∧ seen.1.stderr = [] ∧ seen.2 = fs) ∧
    (∀ f, calls.1 = .refused f → f.isRequest = false →
      seen.1.code = 2 ∧ seen.1.stdout = [] ∧ seen.2 = fs) ∧
    (∀ f, calls.1 = .unsettled f → seen = (⟨2, [], f.told⟩, fs)) ∧
    (∀ r report f, calls.1 = .performed r report → report.failure? = some f →
      (∃ fs', r.performExport i.cwd fs = .error f fs') ∧ seen.1 = ⟨4, full r, f.told⟩) ∧
    (∀ r report, calls.1 = .performed r report → report.failure? = none →
      seen.1 = ⟨0, full r, []⟩) ∧
    (∀ f, calls.1 = .refused f → ∀ environment cwd tree,
      run { i with environment, cwd } tree = (seen.1, tree)) ∧
    (∀ f, calls.1 = .unsettled f → ∀ tree : FileSystem,
      tree.nearestFile? settingsFileName i.cwd = none → run i tree = (seen.1, tree)) := by
  intro full calls seen
  have hnear : fs.nearestFile? settingsFileName i.cwd = none :=
    FileSystem.nearestFile?_eq_none_iff.2 hfile
  have hlookup : i.environment.boundText? = fun b => texts.lookup b.variableName := by
    funext b
    rw [henv]
    exact Environment.text?_ofTexts texts b.variableName
  have hseen : seen = (.ofEnding calls.1, calls.2) := by
    show run i fs = _
    rw [run_eq_libraryCalls hnear hout, hlookup]
  have hfull (r : RunSettings) : full r = r.span.reportText r.format :=
    r.span.held_observe_writeReport r.format
  refine ⟨by rw [hseen], ?_, ?_, ?_, ?_, ?_, ?_, ?_⟩
  · intro f hrefused hrequest
    obtain ⟨hcode, hstderr⟩ := Outcome.ofFault_of_isRequest hrequest .keeping
    rw [hseen, hrefused]
    exact ⟨hcode, hstderr, (ofArguments_of_refused hrefused).2⟩
  · intro f hrefused hfault
    obtain ⟨hcode, hstdout⟩ := Outcome.ofFault_of_not_isRequest hfault .keeping
    rw [hseen, hrefused]
    exact ⟨hcode, hstdout, (ofArguments_of_refused hrefused).2⟩
  · intro f hunsettled
    obtain ⟨o, -, hsettings, hfiles⟩ := settings_of_unsettled hunsettled
    rw [hseen, hunsettled, hfiles]
    exact congrArg (·, fs) (Outcome.ofFailure_eq (Options.exitCode_of_settings hsettings) [])
  · intro r report f hperformed hfailure
    obtain rfl := observe_of_performed hperformed
    refine ⟨RunSettings.performExport_of_failure? hfailure, ?_⟩
    rw [hseen, hperformed, hfull]
    exact RunSettings.ofObservation_of_failed hfailure
  · intro r report hperformed hsuccess
    obtain rfl := observe_of_performed hperformed
    rw [hseen, hperformed, hfull]
    exact RunSettings.ofObservation_of_succeeded hsuccess
  · intro f hrefused environment cwd tree
    obtain ⟨harguments, -⟩ := ofArguments_of_refused hrefused
    have hrun : run i fs = _ := run_of_refused harguments fs
    show run _ tree = ((run i fs).1, tree)
    rw [hrun]
    exact run_of_refused (i := { i with environment, cwd }) harguments tree
  · intro f hunsettled tree htree
    obtain ⟨o, harguments, hsettings, -⟩ := settings_of_unsettled hunsettled
    rw [← hlookup] at hsettings
    have hrun : run i fs = _ :=
      run_of_unsettled harguments (loadedEnvironment_of_none hnear) hsettings
    show run i tree = ((run i fs).1, tree)
    rw [hrun, run_of_unsettled harguments (loadedEnvironment_of_none htree) hsettings]

/-- Both years have texts, and the directory of the export is missing. -/
theorem run_refines_library_export :
    let texts := [("AGES_BIRTH_YEAR", " 2010"), ("AGES_CURRENT_YEAR", "+2011 ")]
    let i : Invocation :=
      { arguments := [Text.bytes "--export=missing/ages.json"], environment := .ofTexts texts,
        cwd := [] }
    let told := "Failed to create export 'missing/ages.json': " ++
      "No such file or directory (os error 2)\n"
    run i .empty = (⟨4, Text.bytes "In 2010 I was 0 years old.\n", Text.bytes told⟩, .empty) := by
  intro texts i told
  let path := Text.bytes "missing/ages.json"
  let r : RunSettings := ⟨⟨2010, 2011⟩, .text, some path⟩
  have hfile : ∀ place, place <:+ i.cwd → ∀ content,
      FileSystem.empty.node? (settingsFileName :: place) ≠ some (.file content) := by
    simp [FileSystem.empty]
  have ho : Options.ofArguments i.arguments = .ok { exportPath := some path } := by decide +kernel
  have hs : Options.settings { exportPath := some path } (fun b => texts.lookup b.variableName) =
      .ok r := by decide +kernel
  have hopen : FileSystem.empty.openForWriting i.cwd path = .error .missing := by decide +kernel
  have hexport : r.performExport i.cwd .empty = .error (.createExport path .missing) .empty :=
    r.span.exportTo_of_error hopen
  have hreport := r.span.failure?_observe_writeReport r.format
  have hseen := RunSettings.observe_of_export_failed hreport hexport
  have hcalls := libraryCalls_of_settings ho hs i.cwd .empty
  rw [hseen] at hcalls
  obtain ⟨hfiles, -, -, -, hfailed, -⟩ := run_refines_library i texts .empty rfl rfl hfile
  obtain ⟨-, houtcome⟩ := hfailed r _ _ (congrArg Prod.fst hcalls) rfl
  have htext : (Sink.observe (r.span.writeReport r.format) {}).held =
      Text.bytes "In 2010 I was 0 years old.\n" :=
    (r.span.held_observe_writeReport r.format).trans (by decide +kernel)
  have htold : (Failure.createExport path .missing).told = Text.bytes told := by decide +kernel
  simp only [htext, htold] at houtcome
  exact Prod.ext houtcome (hfiles.trans (congrArg Prod.snd hcalls))

end AgeReport
