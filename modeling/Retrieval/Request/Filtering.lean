import Retrieval.Request.Selection
import Retrieval.Text.Percent

/-!
# Filters of a request

Filters are sent under the main resource or a relation. A text that is no filter is dropped without
a report. Filters may be confined to selectable fields; one on another field is then dropped and
reported. A field that is filtered by is also selected where other fields of its resource are.
-/

namespace Retrieval

namespace Request

/-- The filters that the texts of a value spell, their percent escapes undone. -/
def filtersOf (value : RawValue) : List Filter :=
  value.texts.filterMap fun text => Filter.ofText? (Text.Percent.decode text.toList)

/-- Whether a filter under a key is refused: if filters are confined and the resource of the key is
known and does not allow its field to be selected. -/
def refuses (scope : Scope) (confined : Bool) (key : String) (filter : Filter) : Bool :=
  confined && ((scope.metadata? key).map (!·.canSelect filter.field)).getD false

/-- Adds filters under a key, unless there are none. -/
def putFilters (request : Request) (key : String) (filters : List Filter) : Request :=
  if filters.isEmpty then request
  else { request with
    filters := request.filters.insert key ((request.filters.find? key).getD [] ++ filters) }

/-- Reads the filters sent under one key. -/
def filterBy (scope : Scope) (confined : Bool) (request : Request) (key : String)
    (value : RawValue) : Request :=
  let (refused, kept) := (filtersOf value).partition (refuses scope confined key)
  (request.reportAll (refused.map fun filter => .unknownFilterField key filter.field)).putFilters
    key kept

/-- Reads the filters sent under every key, in the order of the keys. -/
def readFilters (scope : Scope) (raw : OrderedMap RawValue) (confined : Bool) (request : Request) :
    Request :=
  raw.entries.foldl (fun request entry => request.filterBy scope confined entry.1 entry.2) request

/-- A set of fields with more names, unless it selects every column. -/
def extend (fields : FieldSet) (names : List String) : FieldSet :=
  if fields.contains wildcard then fields else fields.ensureAll names

/-- Selects the fields that are filtered by, under the keys that have a selection. -/
def selectFiltered (request : Request) : Request :=
  { request with
    fields := request.fields.map fun key fields =>
      extend fields (((request.filters.find? key).getD []).map (·.field)) }

end Request

end Retrieval
