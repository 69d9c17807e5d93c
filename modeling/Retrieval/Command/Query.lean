import Retrieval.Command.Outcome
import Retrieval.Value.Json.Printer

/-!
# Commands on queries

Both commands convert the query of the command line with the resources of a project, and report the
problems of the request as warnings. One explains the conversion: the request, the statement and the
number of bound values. The other executes the plan and prints the row or the page.

Executing asks for an address before it converts, so a missing address goes before a failing
conversion.
-/

namespace Retrieval.Command

/-- The conversion of the query of a command. -/
def convert (project : Project) (options : QueryOptions) : Except Failure Conversion := do
  let converter ← project.converter.mapError .project
  let action := if options.entity.isSome then .entity else .index
  (converter.convertQuery options.resource options.query action options.entity).mapError .query

/-- The problems of a request as warnings. -/
def warnings (request : Request) : String :=
  textOfLines (request.problems.map fun problem => s!"warning: {problem.message}")

/-- The explanation of a conversion, given its statement. -/
def explanation (conversion : Conversion) (statement : Statement) : String :=
  textOfLines ["-- request", conversion.request.toValue.toJson, "-- sql", statement.text,
    s!"-- params: {statement.params.length}"]

/-- The outcome of a conversion whose result may still fail. -/
def conclude (conversion : Conversion) (output : Except Failure String) : Outcome :=
  let messages := warnings conversion.request
  match output with
  | .ok text => ⟨text, messages, none⟩
  | .error failure => ⟨"", messages, some failure⟩

/-- Explains the query of a command. -/
def explainQuery (host : Host) (options : QueryOptions) : Outcome :=
  .ofExcept do
    let conversion ← convert (← host.project options.config) options
    return conclude conversion
      ((conversion.plan.sql.mapError .query).map (explanation conversion))

/-- Fetches the result of a plan: its row, or its page. -/
def fetch (plan : Plan) : Session Value :=
  if plan.isSingle then do
    let row ← plan.fetchOne
    return row.getD .null
  else do
    let page ← plan.fetchPage
    return page.toValue

/-- Executes the query of a command. -/
def runQuery (host : Host) (options : QueryOptions) : Outcome :=
  .ofExcept do
    let project ← host.project options.config
    let address ← (project.address options.config options.database).mapError .project
    let conversion ← convert project options
    return conclude conversion do
      let client ← (host.connect address).mapError .disconnected
      let value ← ((fetch conversion.plan).run client.connection).result.mapError .query
      return textOfLines [value.toJson]

end Retrieval.Command
