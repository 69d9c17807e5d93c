import Retrieval.Command.Check
import Retrieval.Command.Query

/-!
# The command line

A command line is read once the file of assignments is, and then its command is performed.
-/

namespace Retrieval.Command

/-- Performs a command. -/
def perform (host : Host) : Command → Outcome
  | help topic => .printed (helpText topic)
  | explain options => explainQuery host options
  | run options => runQuery host options
  | check options => checkProject host options

/-- Performs the command of a command line, the name of the program left out. -/
def performLine (host : Host) (arguments : List String) : Outcome :=
  match ofArguments arguments with
  | .ok command => command.perform host.loaded
  | .error error => .failed (.usage error)

end Retrieval.Command
