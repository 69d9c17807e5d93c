import Retrieval.FieldSet
import Retrieval.Request.Filter
import Retrieval.Request.Problem
import Retrieval.Request.Window

/-!
# Requests

A request is what is left of the parameters once they are checked: per resource the fields, filters
and limits that may be honoured, the sort keys and the page, and the problems met on the way.
-/

namespace Retrieval

/-- What a request asks for. -/
inductive Action where
  | index
  | entity
deriving DecidableEq, Inhabited

/-- The word for an action. -/
def Action.word : Action → String
  | index => "index"
  | entity => "show"

/-- The action of a word. -/
def Action.ofWord? : String → Option Action
  | "index" => some index
  | "show" => some entity
  | _ => none

/-- The direction of a sort key. -/
inductive Direction where
  | ascending
  | descending
deriving DecidableEq, Inhabited

/-- The word for a direction in a record. -/
def Direction.word : Direction → String
  | ascending => "asc"
  | descending => "desc"

/-- The word for a direction in a statement. -/
def Direction.sql : Direction → String
  | ascending => "ASC"
  | descending => "DESC"

/-- A field to sort by. -/
structure SortKey where
  field : String
  direction : Direction
deriving DecidableEq, Inhabited

/-- The record of a sort key. -/
def SortKey.toValue (key : SortKey) : Value :=
  .record [("field", .text key.field), ("direction", .text key.direction.word)]

/-- A checked request. -/
structure Request where
  resourceType : String
  /-- The name of the main resource, its key among the fields and filters. -/
  resource : String
  action : Action
  /-- The selected fields, under the main resource and the relations to load. -/
  fields : OrderedMap FieldSet
  sorting : List SortKey
  filters : OrderedMap (List Filter)
  limits : OrderedMap UInt64
  window : Option Window
  problems : List Problem
deriving DecidableEq

namespace Request

/-- The request before any parameter is read. -/
def start (resourceType resource : String) (action : Action) : Request :=
  { resourceType, resource, action, fields := .empty, sorting := [], filters := .empty
    limits := .empty, window := none, problems := [] }

/-- Reports a problem. -/
def report (request : Request) (problem : Problem) : Request :=
  { request with problems := request.problems ++ [problem] }

/-- Reports problems in order. -/
def reportAll (request : Request) (problems : List Problem) : Request :=
  { request with problems := request.problems ++ problems }

/-- The fields of the main resource, once they are selected. -/
def mainFields? (request : Request) : Option FieldSet := request.fields.find? request.resource

/-- The relations to load with their fields, in the order of their names. -/
def relations (request : Request) : List (String × FieldSet) :=
  request.fields.entries.filter (·.1 ≠ request.resource)

/-- The record of a request; a request without a page is written without one. -/
def toValue (request : Request) : Value :=
  .record ([("resource_type", .text request.resourceType),
    ("resource", .text request.resource),
    ("action", .text request.action.word),
    ("fields", .ofMap (fun fields => .ofTexts fields.toList) request.fields),
    ("sorting", .list (request.sorting.map SortKey.toValue)),
    ("filters", .ofMap (fun filters => .list (filters.map Filter.toValue)) request.filters),
    ("limits", .ofMap .ofCount request.limits)]
    ++ Value.fieldOf? "pagination" Window.toValue request.window
    ++ [("errors", .ofTexts (request.problems.map Problem.message))])

end Request

end Retrieval
