import Retrieval.Query.RawValue
import Retrieval.Request.Basic
import Retrieval.Resource.Scope

/-!
# Selected fields of a request

Under the name of the main resource or a relation, fields are sent between commas. Empty names are
passed over and blanks count. A star selects all that may be selected. The main resource always ends
up with a selection.
-/

namespace Retrieval

/-- The name that stands for every column. -/
def wildcard : String := "*"

/-- All the fields of a resource that may be selected, or the star if it declares none. -/
def Metadata.allFields (metadata : Metadata) : FieldSet :=
  if metadata.selectable.isEmpty then .ofList [wildcard] else .ofList metadata.selectable

/-- The names between the commas of a value, in order, without empty ones. -/
def RawValue.segments (value : RawValue) : List String :=
  value.texts.flatMap fun text =>
    (Text.split ',' text.toList).filterMap fun piece =>
      if piece.isEmpty then none else some (String.ofList piece)

/-- The fields that a list of names selects on a resource. -/
def Metadata.select (metadata : Metadata) (names : List String) : FieldSet :=
  if names.contains wildcard then metadata.allFields
  else .ofList (names.filter metadata.canSelect)

/-- The names in a list that may not be selected on a resource; a star excuses all. -/
def Metadata.unselectable (metadata : Metadata) (names : List String) : List String :=
  if names.contains wildcard then [] else names.filter (!metadata.canSelect ·)

namespace Request

/-- Selects fields under a key, unless there are none. -/
def putFields (request : Request) (key : String) (fields : FieldSet) : Request :=
  if fields.isEmpty then request
  else { request with fields := request.fields.insert key fields }

/-- Selects the named fields of the resource that a key names, and reports what is not allowed. -/
def select (scope : Scope) (request : Request) (key : String) (names : List String) : Request :=
  if names.isEmpty then request
  else match scope.metadata? key with
    | none => request.report (.unknownResource key)
    | some metadata =>
      (request.reportAll ((metadata.unselectable names).map (.unknownField key))).putFields key
        (metadata.select names)

/-- Selects all fields of the main resource if none are selected. -/
def defaultMain (scope : Scope) (request : Request) : Request :=
  if request.fields.contains scope.main.name then request
  else { request with fields := request.fields.insert scope.main.name scope.main.allFields }

/-- Reads the fields sent under every key, in the order of the keys. -/
def readFields (scope : Scope) (raw : OrderedMap RawValue) (request : Request) : Request :=
  (raw.entries.foldl (fun request entry => request.select scope entry.1 entry.2.segments)
    request).defaultMain scope

end Request

end Retrieval
