import Retrieval.Command.Arguments
import Retrieval.Command.Help
import Retrieval.Environment.Assignments
import Retrieval.Fetch.Exchange
import Retrieval.Project

/-!
# Outcomes of commands

A command reads files and variables, may connect to a database, writes to two streams, and may
fail. What it gets is a `Host`, and what comes of it is an `Outcome`.
-/

namespace Retrieval

/-- Why a file cannot be read. -/
inductive ReadError where
  | refused (reason : String) (code : Nat)
  | notText
  /-- The path holds a NUL character, which no path may. -/
  | notPath
deriving DecidableEq

namespace ReadError

/-- There is no such file. -/
def missing : ReadError := refused "No such file or directory" 2

/-- The file is a directory. -/
def directory : ReadError := refused "Is a directory" 21

/-- A file stands where a directory has to be. -/
def notDirectory : ReadError := refused "Not a directory" 20

/-- The path or a name in it is too long. -/
def tooLong : ReadError := refused "File name too long" 36

/-- The wording of an error. -/
def message : ReadError → String
  | refused reason code => s!"{reason} (os error {code})"
  | notText => "stream did not contain valid UTF-8"
  | notPath => "file name contained an unexpected NUL byte"

end ReadError

/-! ## Hosts -/

/-- What a command has to work with. -/
structure Host where
  environment : Environment
  read : String → Except ReadError String
  connect : String → Except String Client

/-! ## Failures and outcomes -/

/-- Why a command fails. -/
inductive Command.Failure where
  | usage (error : UsageError)
  | unreadable (path : String) (error : ReadError)
  | unacceptable (path : String) (error : Project.Error)
  | project (error : Project.Error)
  | query (failure : Retrieval.Failure)
  | issues (count : Nat) (path : String)
  | disconnected (reason : String)
deriving DecidableEq

/-- The wording of a failure. -/
def Command.Failure.message : Command.Failure → String
  | usage error => error.message
  | unreadable path error => s!"failed to read config file {path}: {error.message}"
  | unacceptable path error => s!"failed to load config file {path}: {error.message}"
  | project error => error.message
  | query failure => failure.message
  | issues count path => s!"check failed: {count} issue(s) in {path}"
  | disconnected reason => reason

/-- What comes of a command. -/
structure Outcome where
  output : String
  messages : String
  failure : Option Command.Failure
deriving DecidableEq

namespace Outcome

/-- A text and nothing else. -/
def printed (output : String) : Outcome := ⟨output, "", none⟩

/-- A failure before anything is written. -/
def failed (failure : Command.Failure) : Outcome := ⟨"", "", some failure⟩

/-- The outcome of what is written once nothing can fail any more, or of the failure before. -/
def ofExcept : Except Command.Failure Outcome → Outcome
  | .ok outcome => outcome
  | .error failure => failed failure

end Outcome

namespace Host

/-- The file of assignments that is read before anything else. -/
def assignmentsPath : String := ".env"

/-- The host with the variables of the file of assignments, if there is one. -/
def loaded (host : Host) : Host :=
  match host.read assignmentsPath with
  | .ok text => { host with environment := host.environment.load text }
  | .error _ => host

/-- The project of a path. -/
def project (host : Host) (path : String) : Except Command.Failure Project := do
  let text ← (host.read path).mapError (.unreadable path)
  (Project.ofText host.environment text).mapError (.unacceptable path)

end Host

end Retrieval
