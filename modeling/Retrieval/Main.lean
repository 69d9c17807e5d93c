import Retrieval.Command.Line
import Std.Internal.UV.System

/-!
# The program

Reads the files that a command line may need, performs the command, and prints what comes of it.
A failure goes to the stream of messages, and the exit status is then one.
-/

namespace Retrieval.Program

/-- A refusal of the system; its number may come negated. -/
def refused (code : UInt32) (reason : String) : ReadError :=
  .refused reason.capitalize (if code < 0x80000000 then code else -code).toNat

/-- Why the system did not let a file be read. -/
def readError : IO.Error → ReadError
  | .noFileOrDirectory _ code reason => refused code reason
  | .inappropriateType _ code reason => refused code reason
  | .permissionDenied _ code reason => refused code reason
  | error => .refused (toString error) 0

/-- The text of a file. -/
def readText (path : String) : IO (Except ReadError String) := do
  try
    match String.fromUTF8? (← IO.FS.readBinFile path) with
    | some text => return .ok text
    | none => return .error .notText
  catch error => return .error (readError error)

/-- The directories from a given one up to the root. -/
def upwards (directory : String) : List String :=
  let parts := directory.splitOn "/"
  (List.range parts.length).map fun n => "/".intercalate (parts.take (parts.length - n))

/-- The text of the nearest file of assignments. -/
def readAssignments : IO (Except ReadError String) := do
  for directory in upwards (← IO.currentDir).toString do
    if let .ok text ← readText s!"{directory}/{Host.assignmentsPath}" then return .ok text
  return .error .missing

/-- The path of the project file that a command line names. -/
def configPath? (arguments : List String) : Option String :=
  match Command.ofArguments arguments with
  | .ok command => command.config?
  | .error _ => none

/-- The texts of the files that a command line may need. -/
def readAll (arguments : List String) : IO (List (String × Except ReadError String)) := do
  let projects ← (configPath? arguments).toList.mapM fun path => return (path, ← readText path)
  return (Host.assignmentsPath, ← readAssignments) :: projects

end Retrieval.Program

open Retrieval in
/-- Performs the command of a command line. -/
def main (arguments : List String) : IO UInt32 := do
  let texts ← Program.readAll arguments
  let host : Host :=
    { environment := .ofList (← Std.Internal.UV.System.osEnviron).toList
      read := fun path => (texts.lookup path).getD (.error .missing)
      connect := fun _ => .error "no connection to a database is available" }
  let outcome := Command.performLine host arguments
  IO.print outcome.output
  IO.eprint outcome.messages
  match outcome.failure with
  | none => return 0
  | some failure =>
    IO.eprintln failure.message
    return 1
