import AgeReport.Output.SystemWording

/-!
# Errors of input and output

Why bytes could not be written or a file could not be opened, and the text that says so.
-/

namespace AgeReport

/-- The general sorts of input and output errors. -/
inductive IoErrorKind
  | notFound | permissionDenied | connectionReset | brokenPipe | alreadyExists | wouldBlock
  | invalidInput | invalidData | timedOut | writeZero | storageFull | interrupted | unsupported
  | unexpectedEof | outOfMemory | other
deriving DecidableEq, Repr

/-- The wording of a sort of error. -/
def IoErrorKind.description : IoErrorKind → String
  | notFound => "entity not found"
  | permissionDenied => "permission denied"
  | connectionReset => "connection reset"
  | brokenPipe => "broken pipe"
  | alreadyExists => "entity already exists"
  | wouldBlock => "operation would block"
  | invalidInput => "invalid input parameter"
  | invalidData => "invalid data"
  | timedOut => "timed out"
  | writeZero => "write zero"
  | storageFull => "no storage space"
  | interrupted => "operation interrupted"
  | unsupported => "unsupported"
  | unexpectedEof => "unexpected end of file"
  | outOfMemory => "out of memory"
  | other => "other error"

/-- An error of input or output. -/
inductive IoError
  /-- An error number of the system. -/
  | system (code : Int)
  /-- Nothing but the sort of error is known. -/
  | plain (kind : IoErrorKind)
  /-- An error with a message of its own. -/
  | custom (kind : IoErrorKind) (message : String)
  /-- The receiver took no more bytes. -/
  | incomplete
  /-- A path, or another text for the system, holds a zero byte, which it takes for the end. -/
  | zeroInPath
deriving DecidableEq, Repr

namespace IoError

/-- The text of an error. -/
def text : IoError → String
  | system code => s!"{Output.systemWording code} (os error {code})"
  | plain kind => kind.description
  | custom _ message => message
  | incomplete => "failed to write whole buffer"
  | zeroInPath => "file name contained an unexpected NUL byte"

/-- No such file or directory. -/
def missing : IoError := system 2

/-- A file stands where a directory is needed. -/
def notDirectory : IoError := system 20

/-- A directory stands where a file is needed. -/
def isDirectory : IoError := system 21

/-- An argument that the system does not take. -/
def invalidArgument : IoError := system 22

/-- A device has no space left. -/
def noSpace : IoError := system 28

/-- A name or a path is too long. -/
def nameTooLong : IoError := system 36

end IoError
end AgeReport
