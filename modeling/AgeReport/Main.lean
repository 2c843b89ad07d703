import AgeReport.Run

/-!
# The program

Carries out on the system what `run` describes: reads the environment and the nearest settings
file, writes the report to standard output and the export to its file, and ends with the exit
code. The settings and the stages are those of `run`, which are stated for any output. What is
written passes through the library's buffer, and goes on to the system as the buffer lets it out, so
that a long report is never held in memory.
-/

namespace AgeReport.Program

/-! ## Errors of the system -/

/-- An error of the system by its number, or by its text if it has none. -/
def ofSystem : IO.Error → IoError
  | .alreadyExists _ code _ | .otherError code _ | .resourceBusy code _
  | .resourceVanished code _ | .unsupportedOperation code _ | .hardwareFault code _
  | .unsatisfiedConstraints code _ | .illegalOperation code _ | .protocolError code _
  | .timeExpired code _ | .interrupted _ code _ | .noFileOrDirectory _ code _
  | .invalidArgument _ code _ | .permissionDenied _ code _ | .resourceExhausted _ code _
  | .inappropriateType _ code _ | .noSuchThing _ code _ => .system code.toNat
  | .unexpectedEof => .plain .unexpectedEof
  | .userError message => .custom .other message

/-- A computation of the system that may fail. -/
abbrev Attempt (ε : Type) := ExceptT ε IO

/-- Does something that the system may refuse. -/
def attempt {α : Type} (act : IO α) : Attempt IoError α :=
  ExceptT.mk do
    try return .ok (← act)
    catch e => return .error (ofSystem e)

/-! ## Writing -/

/-- Does a step on a buffer, and passes on what the buffer lets out. -/
def relay (stream : IO.FS.Stream) (act : EStateM IoError Buffered Unit) (b : Buffered) :
    Attempt IoError Buffered :=
  match act b with
  | .error e _ => throw e
  | .ok _ b => do
    if b.device.held.isEmpty then return b
    attempt do
      stream.write ⟨b.device.held⟩
      stream.flush
    return { b with device := { b.device with held := #[] } }

/-- Computations that write to a stream through a buffer. -/
abbrev Relay (ε : Type) := ReaderT IO.FS.Stream (StateT Buffered (Attempt ε))

/-- A step on the buffer as a computation that writes. -/
def Relay.ofBuffered (act : EStateM IoError Buffered Unit) : Relay IoError Unit :=
  fun stream b => return ((), ← relay stream act b)

instance : FlushedOutput (Relay IoError) where
  put bs := .ofBuffered (Writer.writeAll bs)
  flush := .ofBuffered Writer.flush

instance : Stages (Relay IoError) (Relay Failure) where
  stage name act := fun stream b => ((act.run stream).run b).adapt name

/-- Carries out stages on a stream, with an empty buffer before it. -/
def Relay.on (stream : IO.FS.Stream) (act : Relay Failure Unit) : Attempt Failure Unit := do
  let _ ← (act.run stream).run { device := { medium := .keeping } }

/-- Writes the report to standard output. -/
def report (s : YearSpan) (format : OutputFormat) : Attempt Failure Unit := do
  Relay.on (← IO.getStdout) (s.reportStages format)

/-- Writes the export to a file. -/
def exportTo (s : YearSpan) (path : Bytes) : Attempt Failure Unit := do
  let handle ← (attempt (IO.FS.Handle.mk (Text.lossy path) .write)).adapt (.createExport path)
  Relay.on (.ofHandle handle) (s.exportStages path)

/-- Writes the report, and then the export if one is wanted. -/
def perform (r : RunSettings) : Attempt Failure Unit :=
  r.stages report exportTo

/-! ## Reading -/

/-- The content of a file, if it can be read. -/
def readFile? (path : String) : IO (Option Bytes) := do
  try return some (← IO.FS.readBinFile path).toList
  catch _ => return none

/-- The environment of the program. -/
def environment : IO Environment := do
  let block ← readFile? "/proc/self/environ"
  return .ofEntries ((block.getD []).splitOn 0)

/-- The absolute path of a name in a place. -/
def pathText (place : Location) (name : Bytes) : String :=
  Text.lossy ((name :: place).reverse.flatMap (0x2F :: ·))

/-- The content of the settings file that is nearest to a place. -/
def settingsFile? : Location → IO (Option Bytes)
  | [] => readFile? (pathText [] settingsFileName)
  | dir :: above => do
    match ← readFile? (pathText (dir :: above) settingsFileName) with
    | some content => return some content
    | none => settingsFile? above

/-- The working directory. -/
def workingDirectory : IO Location := do
  return (Path.ofBytes (Text.bytes (← IO.currentDir).toString)).names.reverse

/-! ## The end -/

/-- Shows what is seen of a run besides its report. -/
def conclude (o : Outcome) : IO UInt32 := do
  try (← IO.getStdout).write ⟨o.stdout.toArray⟩
  catch _ => pure ()
  (← IO.getStderr).write ⟨o.stderr.toArray⟩
  return o.code.toUInt32

/-- Runs the program with its arguments. -/
def start (arguments : List String) : IO UInt32 := do
  match Options.ofArguments (arguments.map Text.bytes) with
  | .error f => conclude (.ofFault .keeping f)
  | .ok o =>
    let file ← settingsFile? (← workingDirectory)
    match o.prepare ((← environment).withSettings file) with
    | .error stop => conclude (stop.outcome messageLine)
    | .ok r =>
      match ← perform r with
      | .ok _ => return 0
      | .error f => conclude (.ofFailure f [])

end AgeReport.Program

/-- The entry of the program. -/
def main (arguments : List String) : IO UInt32 :=
  AgeReport.Program.start arguments
