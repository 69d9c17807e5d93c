import Retrieval.Fetch.Page
import Retrieval.Fetch.Session
import Retrieval.Plan.Rendering
import Retrieval.Value.Json.Reader

/-!
# Fetching

Fetching sends the statement of a plan, or nothing if the plan has none or is not of the kind asked
for, and decodes the rows of the answer. One row that is not a value makes the whole fetch fail.

A row arrives in one column. The types of columns are told apart before anything is read: a column
of JSON holds text that is read as JSON, null is not a value of it, and a column of text is refused
whatever its text. What is then said of the row is said by the client.
-/

namespace Retrieval

namespace Row

/-- The name of the column in which rows arrive. -/
def column : String := "row_to_json"

/-- The value of a row: a column of JSON that holds JSON text. A column of another type is not read,
and null is no value. -/
def value? (row : Row) : Option Value :=
  match row.type, row.cell with
  | .json, some text => Value.ofJson? text
  | _, _ => none

/-- The value of a row, or a failure that passes on what is said of the row. -/
def decode (row : Row) : Except Failure Value :=
  match row.value? with
  | some value => .ok value
  | none => .error (.undecodable column row.complaint)

/-- The values of all rows. -/
def decodeAll (rows : List Row) : Except Failure (List Value) := rows.mapM decode

end Row

namespace Plan

/-- Fetches every row. -/
def fetchAll (plan : Plan) : Session (List Value) := do
  let statement ← plan.sql
  let rows ← Session.send statement.query
  Row.decodeAll rows

/-- Fetches the single row of a lookup, if there is one. -/
def fetchOne (plan : Plan) : Session (Option Value) :=
  if plan.isSingle then do
    let rows ← plan.fetchAll
    return rows.head?
  else .done (.error (.noLookup plan.resourceType))

/-- Fetches the page of a list. -/
def fetchPage (plan : Plan) : Session (Page Value) :=
  match plan.window with
  | none => .done (.error (.noWindow plan.resourceType))
  | some window => do
    let rows ← plan.fetchAll
    Page.ofLookahead rows window

end Plan

end Retrieval
