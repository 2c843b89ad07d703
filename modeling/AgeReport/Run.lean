import AgeReport.CommandLine.Parse
import AgeReport.EnvFile.Load
import AgeReport.Export

/-!
# A run of the program

The stages of a run, each only if the one before succeeded: the command line, the settings file
and the environment, the report, the export. A failure ends the run and shows in the exit code; a
settings file whose values the system does not take crashes it.

* `RunSettings.stages`: the report and then the export, whatever carries them out;
* `RunSettings.perform`: the same on a writer and a file system;
* `Options.prepare`: the settings of a run, or what stops it before its report;
* `run`: the whole program on a command line, an environment and a file system.
-/

namespace AgeReport

/-! ## The report and the export -/

/-- The states that a run works on: what it writes the report to, and the files. -/
structure Surroundings (σ : Type) where
  output : σ
  files : FileSystem

variable {σ : Type} [Writer σ]

/-- Lets an action work on the output alone. -/
def onOutput (act : EStateM Failure σ Unit) : EStateM Failure (Surroundings σ) Unit :=
  fun w =>
    match act w.output with
    | .ok _ out => .ok () { w with output := out }
    | .error f out => .error f { w with output := out }

/-- Lets an action work on the files alone. -/
def onFiles (act : EStateM Failure FileSystem Unit) : EStateM Failure (Surroundings σ) Unit :=
  fun w =>
    match act w.files with
    | .ok _ fs => .ok () { w with files := fs }
    | .error f fs => .error f { w with files := fs }

namespace RunSettings

/-- The report, and then the export if one is wanted (`run_report`), where `report` writes a span in
a form and `exportTo` exports one to a path. -/
def stages {p : Type → Type} [Monad p] (r : RunSettings)
    (report : YearSpan → OutputFormat → p Unit) (exportTo : YearSpan → Bytes → p Unit) :
    p Unit := do
  report r.span r.format
  match r.exportPath with
  | none => pure ()
  | some path => exportTo r.span path

/-- Writes the report, and then the export. -/
def perform (r : RunSettings) (cwd : Location) : EStateM Failure (Surroundings σ) Unit :=
  r.stages (fun s format => onOutput (s.writeReport format))
    (fun s path => onFiles (s.exportTo cwd path))

end RunSettings

/-! ## The program -/

/-- A message on a line of its own. -/
def messageLine (message : String) : Bytes :=
  Text.bytes (message ++ "\n")

/-- How the program is started. -/
structure Invocation where
  /-- The arguments after the name of the program. -/
  arguments : List Bytes
  environment : Environment
  cwd : Location
  /-- What standard output is connected to. -/
  stdout : Medium := .keeping
  /-- What standard error shows of a crash with the given message. The runtime puts the place of the
  crash before the message and hints behind it, which differ from build to build. -/
  crashReport : String → Bytes := messageLine

/-- What is seen of a run from outside, the files apart. -/
structure Outcome where
  code : UInt8
  stdout : Bytes
  stderr : Bytes
deriving DecidableEq, Repr

/-- The name of settings files. -/
def settingsFileName : Bytes := Text.bytes ".env"

/-- The environment after a settings file has been read, if there is one. -/
def Environment.withSettings (e : Environment) : Option Bytes → Except Refusal Environment
  | none => .ok e
  | some file => EnvFile.load e file

/-- The environment after the nearest settings file has been read (`dotenv`). -/
def Invocation.loadedEnvironment (i : Invocation) (fs : FileSystem) :
    Except Environment.Refusal Environment :=
  i.environment.withSettings (fs.nearestFile? settingsFileName i.cwd)

/-- What stops a run with a good command line before its report. -/
inductive Stop
  /-- The system refuses an assignment of the settings file. -/
  | crash (r : Environment.Refusal)
  /-- The options and the environment make no settings. -/
  | failure (f : Failure)
deriving DecidableEq, Repr

/-- The settings of a run with the given options, once the settings file has been read. -/
def Options.prepare (o : Options) (loaded : Except Environment.Refusal Environment) :
    Except Stop RunSettings :=
  match loaded with
  | .error r => .error (.crash r)
  | .ok e => (o.settings e.boundText?).mapError .failure

/-- The outcome of a command line that does not make a run. What was asked for goes to standard
output, whether it gets there or not, and a fault to standard error. -/
def Outcome.ofFault (stdout : Medium) (f : CommandLine.Fault) : Outcome :=
  let message := Text.bytes (f.message toolName)
  if f.isRequest then
    let shown := if stdout = .keeping then message else []
    ⟨f.exitCode, shown, []⟩
  else ⟨f.exitCode, [], message⟩

/-- The outcome of a failure, after `written` has reached standard output. -/
def Outcome.ofFailure (f : Failure) (written : Bytes) : Outcome :=
  let e := f.exitError
  ⟨e.exitCode, written, messageLine e.message⟩

/-- The outcome of a run that is stopped before its report. -/
def Stop.outcome (crashReport : String → Bytes) : Stop → Outcome
  | crash r => ⟨101, [], crashReport r.message⟩
  | failure f => .ofFailure f []

/-- Performs the settings with standard output behind a buffer. -/
def RunSettings.outcome (r : RunSettings) (i : Invocation) (fs : FileSystem) :
    Outcome × FileSystem :=
  let start : Surroundings Buffered := ⟨{ device := { medium := i.stdout } }, fs⟩
  match r.perform i.cwd start with
  | .ok _ w => (⟨0, w.output.device.held.toList, []⟩, w.files)
  | .error f w => (.ofFailure f w.output.device.held.toList, w.files)

/-- Runs the program: its `run`, and what `main` makes of an error. -/
def run (i : Invocation) (fs : FileSystem) : Outcome × FileSystem :=
  match Options.ofArguments i.arguments with
  | .error f => (.ofFault i.stdout f, fs)
  | .ok o =>
    match o.prepare (i.loadedEnvironment fs) with
    | .error stop => (stop.outcome i.crashReport, fs)
    | .ok r => r.outcome i fs

end AgeReport
