import Retrieval.Plan.Compile
import Retrieval.Query.RawParams
import Retrieval.Request.Joining
import Retrieval.Request.Limiting
import Retrieval.Request.Sorting

/-!
# Conversions

A converter turns the parameters of a request into a checked request and its plan. The passes run in
one order: sort keys, fields, filters, the fields of filters, relations, the targets of filters,
limits, the page. Sort keys and the page are read for lists only.

Parameters never make a conversion fail. It fails for a main resource that is not registered, and
for a single entity without a key.
-/

namespace Retrieval

/-- A checked request and its plan. -/
structure Conversion where
  request : Request
  plan : Plan
deriving DecidableEq

/-- A registry and the settings of conversions. -/
structure Converter where
  registry : Registry
  settings : Settings

/-- Reads every parameter of a request in the order of the passes. -/
def Request.read (scope : Scope) (settings : Settings) (params : RawParams) (action : Action) :
    Request :=
  let start := Request.start scope.resourceType scope.main.name action
  let sorted := if action = .index then start.readSorting scope.main params.sorting else start
  let filtered := (sorted.readFields scope params.fields).readFilters scope params.filters
    settings.strictFilters
  let joined := (filtered.selectFiltered.joinRelations scope).resolveFilters scope
  let limited := joined.readLimits params.limit
  if action = .index then limited.readWindow settings params.page params.perPage else limited

namespace Converter

/-- The scope of a resource type. -/
def scope (converter : Converter) (resourceType : String) : Except Failure Scope :=
  match converter.registry.find? resourceType with
  | none => .error (.unknownResource resourceType)
  | some main => .ok ⟨converter.registry, resourceType, main⟩

/-- The conversion of some parameters for a resource type. -/
def convert (converter : Converter) (resourceType : String) (params : RawParams) (action : Action)
    (id : Option String) : Except Failure Conversion := do
  let scope ← converter.scope resourceType
  if action = .entity ∧ id = none then throw (.missingId resourceType)
  let request := Request.read scope converter.settings params action
  return ⟨request, .ofRequest scope request id⟩

/-- The conversion of a query string for a resource type. -/
def convertQuery (converter : Converter) (resourceType query : String) (action : Action)
    (id : Option String) : Except Failure Conversion :=
  converter.convert resourceType (.ofQuery query) action id

end Converter

end Retrieval
