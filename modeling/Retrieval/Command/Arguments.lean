import Retrieval.Command.Basic
import Retrieval.Text.Split

/-!
# Reading command lines

The first argument names a command. Each of the others is classified on its own
(`Argument.ofText`); an option that is not joined to a value takes the next argument for its value,
whatever it is. The arguments are gathered into a draft, in which the last value of an option
counts. A request for help ends the reading, and so does the first argument that is not understood.
-/

namespace Retrieval.Command

/-- An option with a value. -/
inductive Opt where
  | config
  | database
  | resource
  | entity
deriving DecidableEq

/-- Why a command line is not understood. -/
inductive UsageError where
  | unknownCommand (name : String)
  /-- An option stands last. -/
  | missingValue (option : Opt)
  | unknownArgument (argument : String)
  | extraArgument (argument : String)
  | missingResource
deriving DecidableEq

/-- The spelling of an option. -/
def Opt.spelling : Opt → String
  | config => "--config"
  | database => "--database"
  | resource => "--resource"
  | entity => "--show"

/-- The wording of an error. -/
def UsageError.message : UsageError → String
  | unknownCommand name => s!"unknown command: {name}"
  | missingValue option => s!"{option.spelling} requires a value"
  | unknownArgument argument => s!"unknown argument: {argument}"
  | extraArgument argument => s!"unexpected extra argument: {argument}"
  | missingResource => "--resource is required"

/-! ## Single arguments -/

/-- The options of a command. -/
def Kind.options : Kind → List Opt
  | explain | run => [.config, .database, .resource, .entity]
  | check => [.config]

/-- Whether a command has a query. -/
def Kind.hasQuery : Kind → Bool
  | explain | run => true
  | check => false

/-- The beginning of an argument that holds an option and its value. -/
def Opt.opening (option : Opt) : List Char := option.spelling.toList ++ ['=']

/-- The value in an argument that holds an option and its value. The option may stand there several
times. -/
def Opt.joinedValue? (option : Opt) (argument : String) : Option String :=
  (Text.after? option.opening argument.toList).map fun value =>
    String.ofList (Text.dropRepeated option.opening value)

/-- What an argument is to a command. -/
inductive Argument where
  | help
  | verbose
  /-- An option whose value comes next. -/
  | option (option : Opt)
  | setting (option : Opt) (value : String)
  | query (text : String)
  | unknown
deriving DecidableEq

/-- A query without the question marks at its beginning. -/
def queryOf (argument : String) : String :=
  String.ofList (Text.dropRepeated ['?'] argument.toList)

/-- What an argument is to a command of some kind. -/
def Argument.ofText (kind : Kind) (argument : String) : Argument :=
  if argument = "-h" ∨ argument = "--help" then .help
  else if argument = "-v" ∨ argument = "--verbose" then .verbose
  else match kind.options.find? (·.spelling = argument) with
    | some opt => .option opt
    | none =>
      match kind.options.findSome? fun opt => (opt.joinedValue? argument).map (opt, ·) with
      | some (opt, value) => .setting opt value
      | none =>
        if kind.hasQuery ∧ argument.toList.head? ≠ some '-' then .query (queryOf argument)
        else .unknown

/-! ## Drafts -/

/-- What the arguments say so far. -/
structure Draft where
  config : String
  database : Option String
  resource : Option String
  entity : Option String
  query : Option String
  verbose : Bool
deriving DecidableEq

namespace Draft

/-- What holds before any argument. -/
def start : Draft :=
  { config := "reqplan.toml", database := none, resource := none, entity := none, query := none
    verbose := false }

/-- The draft with the value of an option, over an earlier one. -/
def set (draft : Draft) : Opt → String → Draft
  | .config, value => { draft with config := value }
  | .database, value => { draft with database := some value }
  | .resource, value => { draft with resource := some value }
  | .entity, value => { draft with entity := some value }

/-- What a command on a query is told. -/
def queryOptions (draft : Draft) : Except UsageError QueryOptions :=
  match draft.resource with
  | none => .error .missingResource
  | some resource => .ok
    { config := draft.config, database := draft.database, resource, entity := draft.entity
      query := draft.query.getD "", verbose := draft.verbose }

/-- The command of a draft. -/
def command (draft : Draft) : Kind → Except UsageError Command
  | .explain => draft.queryOptions.map .explain
  | .run => draft.queryOptions.map .run
  | .check => .ok (.check ⟨draft.config, draft.verbose⟩)

/-- The draft with what some arguments say; none if they ask for help. -/
def scan? (kind : Kind) (draft : Draft) : List String → Except UsageError (Option Draft)
  | [] => .ok (some draft)
  | argument :: rest =>
    match Argument.ofText kind argument, rest with
    | .help, _ => .ok none
    | .verbose, rest => scan? kind { draft with verbose := true } rest
    | .option opt, [] => .error (.missingValue opt)
    | .option opt, value :: rest => scan? kind (draft.set opt value) rest
    | .setting opt value, rest => scan? kind (draft.set opt value) rest
    | .query text, rest =>
      if draft.query.isSome then .error (.extraArgument argument)
      else scan? kind { draft with query := some text } rest
    | .unknown, _ => .error (.unknownArgument argument)

end Draft

/-! ## Command lines -/

/-- The command of the arguments behind the name of a command. -/
def Kind.command (kind : Kind) (arguments : List String) : Except UsageError Command := do
  match ← Draft.start.scan? kind arguments with
  | none => return .help kind
  | some draft => draft.command kind

/-- The command that some arguments ask help on. -/
def helpOn : List String → Except UsageError Command
  | [] => .ok (.help none)
  | word :: _ =>
    match Kind.ofWord? word with
    | some kind => .ok (.help kind)
    | none => .error (.unknownCommand word)

/-- The command of a command line, the name of the program left out. -/
def ofArguments : List String → Except UsageError Command
  | [] => .ok (.help none)
  | word :: rest =>
    if word ∈ ["-h", "--help", "help"] then helpOn rest
    else match Kind.ofWord? word with
      | some kind => kind.command rest
      | none => .error (.unknownCommand word)

end Retrieval.Command
