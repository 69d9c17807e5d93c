import Retrieval.Failure
import Retrieval.Resource.Relation

/-!
# Descriptions of resources

All that is known of a resource: its name, its table and keys, the fields that clients may select
and sort by, and its relations. A description is valid when every name in it is an identifier.
-/

namespace Retrieval

/-- The description of a resource. -/
structure Metadata where
  /-- The name in the singular; it is also the alias of the table and a part of join keys. -/
  name : String
  table : String
  primaryKey : String
  /-- The fields that may be selected; if there are none, all columns are selected together. -/
  selectable : List String
  sortable : List String
  alternateKey : Option String
  relations : OrderedMap Relation
deriving DecidableEq

namespace Metadata

/-- The primary key of a description that names none. -/
def defaultKey : String := "id"

/-- The description of a resource by its name and table alone. -/
def basic (name table : String) : Metadata :=
  { name, table, primaryKey := defaultKey, selectable := [], sortable := [], alternateKey := none
    relations := .empty }

/-- Whether a field may be selected. -/
def canSelect (metadata : Metadata) (field : String) : Bool := metadata.selectable.contains field

/-- Whether a field may be sorted by. -/
def canSort (metadata : Metadata) (field : String) : Bool := metadata.sortable.contains field

/-- The relation of a name. -/
def relation? (metadata : Metadata) (name : String) : Option Relation :=
  metadata.relations.find? name

/-- The description with one more relation, over one of the same name. -/
def withRelation (metadata : Metadata) (name : String) (relation : Relation) : Metadata :=
  { metadata with relations := metadata.relations.insert name relation }

/-! ## Validity -/

/-- Every name in a description that has to be an identifier. -/
def names (metadata : Metadata) : List String :=
  [metadata.name, metadata.table, metadata.primaryKey] ++ metadata.selectable ++ metadata.sortable
    ++ metadata.alternateKey.toList
    ++ metadata.relations.entries.flatMap fun (name, relation) => name :: relation.givenNames

/-- Every name in the description is an identifier. -/
def Valid (metadata : Metadata) : Prop := ∀ name ∈ metadata.names, Ident.isName name

instance (metadata : Metadata) : Decidable metadata.Valid :=
  inferInstanceAs (Decidable (∀ name ∈ metadata.names, _))

/-- The failure that names the first bad name of a description. -/
def validate (metadata : Metadata) : Except Failure Unit :=
  match metadata.names.find? (!Ident.isName ·) with
  | some bad => .error (.badResource metadata.name bad)
  | none => .ok ()

/-! ## Records -/

/-- The declared order of the fields. -/
def fieldNames : List String :=
  ["name", "table", "primary_key", "selectable", "sortable", "alternate_key", "relations"]

/-- Reads a description; all but the name and the table may be missing. -/
def ofValue? (form : Value.Form) (value : Value) : Option Metadata := do
  let record ← value.fields? form fieldNames
  let names := fun key => Value.optional? [] (Value.asList? Value.asText?) key record
  return {
    name := ← Value.required? Value.asText? "name" record
    table := ← Value.required? Value.asText? "table" record
    primaryKey := ← Value.optional? defaultKey Value.asText? "primary_key" record
    selectable := ← names "selectable"
    sortable := ← names "sortable"
    alternateKey := ← Value.optional? none Value.asTextOrNull? "alternate_key" record
    relations := ← Value.optional? .empty (Value.asMap? (Relation.ofValue? form)) "relations"
      record }

/-- Writes every field, an absent key as null. -/
def toValue (metadata : Metadata) : Value :=
  .record [("name", .text metadata.name),
    ("table", .text metadata.table),
    ("primary_key", .text metadata.primaryKey),
    ("selectable", .ofTexts metadata.selectable),
    ("sortable", .ofTexts metadata.sortable),
    ("alternate_key", .ofText? metadata.alternateKey),
    ("relations", .ofMap Relation.toValue metadata.relations)]

end Metadata

end Retrieval
