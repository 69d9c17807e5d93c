/-!
# Commands

What a command line asks for: help, the explanation or execution of a query, or the check of a
project.
-/

namespace Retrieval

/-- The commands that work on a project. -/
inductive Command.Kind where
  | explain
  | run
  | check
deriving DecidableEq

/-- What the commands on queries are told. -/
structure QueryOptions where
  config : String
  /-- An address that goes before that of the project. -/
  database : Option String
  resource : String
  entity : Option String
  query : String
  verbose : Bool
deriving DecidableEq

/-- What the check of a project is told. -/
structure CheckOptions where
  config : String
  verbose : Bool
deriving DecidableEq

/-- What a command line asks for. -/
inductive Command where
  | help (topic : Option Command.Kind)
  | explain (options : QueryOptions)
  | run (options : QueryOptions)
  | check (options : CheckOptions)
deriving DecidableEq

namespace Command

/-- The word for a command. -/
def Kind.word : Kind → String
  | explain => "explain"
  | run => "run"
  | check => "check"

/-- The command of a word. -/
def Kind.ofWord? : String → Option Kind
  | "explain" => some explain
  | "run" => some run
  | "check" => some check
  | _ => none

/-- Whether the steps are to be reported. -/
def isVerbose : Command → Bool
  | help _ => false
  | explain options | run options => options.verbose
  | check options => options.verbose

/-- The path of the project file, if a command has one. -/
def config? : Command → Option String
  | help _ => none
  | explain options | run options => some options.config
  | check options => some options.config

end Command

end Retrieval
