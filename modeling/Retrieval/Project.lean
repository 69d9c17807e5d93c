import Retrieval.Conversion
import Retrieval.Environment.Template
import Retrieval.Value.Toml.Reader

/-!
# Projects

A project file is TOML text. It gives the version of its format, the address of a database, the
settings of conversions and the descriptions of resources. The address is a template.

A project is accepted when its version is known, its address is not blank, it has a resource and its
page sizes are positive. The descriptions are checked only when a registry is made of them.
-/

namespace Retrieval

/-- What a project file says. -/
structure Project where
  version : String
  database : Option String
  settings : Settings
  resources : OrderedMap Metadata
deriving DecidableEq

/-! ## Errors -/

/-- Why a project cannot be used. -/
inductive Project.Error where
  | malformed
  | template (error : Template.Error)
  | unsupported (version : String)
  | emptyAddress
  | noResource
  | noPageSize
  | badResource (resourceType : String) (failure : Failure)
  | noDatabase (path : String)
deriving DecidableEq

/-- The wording of an error. -/
def Project.Error.message : Project.Error → String
  | malformed => "TOML parse error"
  | template error => error.message
  | unsupported version => s!"unsupported config version: {version}"
  | emptyAddress => "database.url must not be empty"
  | noResource => "at least one [resources.<type>] entry is required"
  | noPageSize => "converter page sizes must be positive"
  | badResource resourceType failure => s!"invalid resource {resourceType}: {failure.message}"
  | noDatabase path =>
    s!"no database configured: add [database] url to {path} or pass --database"

namespace Project

/-! ## Reading -/

/-- The declared order of the fields. -/
def fieldNames : List String := ["version", "database", "converter", "resources"]

/-- Reads the address of a database. -/
def addressOf? (form : Value.Form) (value : Value) : Option String := do
  Value.required? Value.asText? "url" (← value.fields? form ["url"])

/-- Reads a project; all but the version may be missing. -/
def ofValue? (form : Value.Form) (value : Value) : Option Project := do
  let record ← value.fields? form fieldNames
  return {
    version := ← Value.required? Value.asText? "version" record
    database := ←
      Value.optional? none (fun value => (addressOf? form value).map some) "database" record
    settings := ← Value.optional? .standard (Settings.ofValue? form) "converter" record
    resources := ←
      Value.optional? .empty (Value.asMap? (Metadata.ofValue? form)) "resources" record }

/-- The project with the values of variables in the address of its database. -/
def expand (env : Environment) (project : Project) : Except Template.Error Project :=
  match project.database with
  | none => .ok project
  | some template => do return { project with database := some (← Template.expand env template) }

/-- The first thing that is wrong with a project. -/
def problem? (project : Project) : Option Error :=
  if Text.trim project.version ≠ "1" then some (.unsupported project.version)
  else if project.database.any (Text.trim · = "") then some .emptyAddress
  else if project.resources.isEmpty then some .noResource
  else if project.settings.defaultPerPage = 0 ∨ project.settings.maxPerPage = 0 then
    some .noPageSize
  else none

/-- Reads the text of a project file. -/
def ofText (env : Environment) (text : String) : Except Error Project := do
  let some value := Value.ofToml? text | throw .malformed
  let some written := ofValue? .toml value | throw .malformed
  let project ← (written.expand env).mapError .template
  match project.problem? with
  | some error => throw error
  | none => return project

/-! ## Registry and address -/

/-- The registry with some descriptions put in one after the other. -/
def registerAll (registry : Registry) : List (String × Metadata) → Except Error Registry
  | [] => .ok registry
  | (resourceType, metadata) :: rest =>
    match (Registry.register resourceType metadata).apply registry with
    | (.ok (), registry) => registerAll registry rest
    | (.error failure, _) => .error (.badResource resourceType failure)

/-- The registry of a project. -/
def registry (project : Project) : Except Error Registry :=
  registerAll .empty project.resources.entries

/-- The converter of a project. -/
def converter (project : Project) : Except Error Converter := do
  return ⟨← project.registry, project.settings⟩

/-- The address of the database: a given one, or else the one in the project file of a path. -/
def address (project : Project) (path : String) (given : Option String) : Except Error String :=
  match given.or project.database with
  | some address => .ok address
  | none => .error (.noDatabase path)

end Project

end Retrieval
