import Retrieval.Plan.Basic
import Retrieval.Resource.Scope

/-!
# Plans of requests

Whatever is left of a request once it is checked has a plan. A relation whose resource is not
registered is passed over. A single entity is found by its key alone: filters, sort keys and pages
are for lists.
-/

namespace Retrieval

/-- The correlation of a declared relation. -/
def Relation.correlation (relation : Relation) (name : String) (main related : Metadata) :
    Correlation :=
  match relation.kind with
  | .toOne _ => .toOne (relation.ownerForeignKey name) related.primaryKey
  | .toMany _ => .toMany (relation.relatedForeignKey main.name) main.primaryKey
  | .manyToMany .. =>
    let keys := relation.pivotKeys main.name related.name
    .manyToMany keys.pivot keys.foreign keys.related main.primaryKey related.primaryKey

namespace Plan

/-- The related rows to load under a key. -/
def eagerLoad? (scope : Scope) (request : Request) (key : String) (columns : FieldSet) :
    Option EagerLoad := do
  let (relation, related) ← scope.related? key
  return {
    relation := key
    table := related.table
    primaryKey := related.primaryKey
    columns
    correlation := relation.correlation key scope.main related
    limit := request.limits.find? key }

/-- The conditions of the filters under a key. -/
def conditions (scope : Scope) (key : String) (filters : List Filter) : List Predicate :=
  if filters.isEmpty then []
  else if scope.isMain key then filters.map .filter
  else match scope.related? key with
    | none => []
    | some (relation, related) =>
      [.related key related.table (relation.correlation key scope.main related) filters]

/-- How the single entity of a key is found. -/
def lookupOf (main : Metadata) (value : String) : Lookup :=
  match main.alternateKey with
  | some alternate => .primaryOrAlternate main.primaryKey alternate value
  | none => .primary main.primaryKey value

/-- The plan of a request, given the key of the single entity if one is asked for. -/
def ofRequest (scope : Scope) (request : Request) (id : Option String) : Plan :=
  { resourceType := scope.resourceType
    table := scope.main.table
    label := scope.main.name
    columns := request.mainFields?.getD (.ofList scope.main.selectable)
    eager := request.relations.filterMap fun (key, columns) =>
      eagerLoad? scope request key columns
    predicates :=
      if request.action = .index then
        request.filters.entries.flatMap fun (key, filters) => conditions scope key filters
      else []
    sort := if request.action = .index then request.sorting else []
    lookup := if request.action = .index then none else id.map (lookupOf scope.main)
    window := if request.action = .index then request.window else none }

end Plan

end Retrieval
