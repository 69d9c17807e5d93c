import Retrieval.Request.Filtering

/-!
# Relations of a request

Every key with a selection, the main resource apart, has to be a declared relation. So that related
rows can be tied to main rows, the keys that join them are selected as well:

* to one: the foreign key on the main resource and the primary key on the related one;
* to many: the foreign key on the related resource;
* many to many: the primary key on the main resource; on the related one a selected primary key is
  replaced by the same key behind the name of the relation, because the pivot table may have a
  column of that name.

Filters under a key that leads to no known resource are dropped.
-/

namespace Retrieval.Request

/-- Selects one more field under a key that has a selection. -/
def ensureField (request : Request) (key field : String) : Request :=
  { request with fields := request.fields.modify key (extend · [field]) }

/-- The fields of a many-to-many relation with its primary key qualified. -/
def qualifyKey (relation primaryKey : String) (fields : FieldSet) : FieldSet :=
  if fields.contains primaryKey then
    (fields.remove primaryKey).ensure s!"{relation}.{primaryKey}"
  else fields

/-- The primary key of the resource that a relation leads to; the conventional one if the resource
is not registered. -/
def relatedKey (scope : Scope) (relation : Relation) : String :=
  ((scope.registry.find? relation.target).map (·.primaryKey)).getD Metadata.defaultKey

/-- Selects the keys that join a relation, or drops the selection of a key that is no relation. -/
def join (scope : Scope) (request : Request) (key : String) : Request :=
  match scope.main.relation? key with
  | none =>
    { request with fields := request.fields.erase key }.report
      (.unknownRelation scope.main.name key)
  | some relation =>
    let primaryKey := relatedKey scope relation
    match relation.kind with
    | .toOne _ =>
      let owned := request.ensureField scope.main.name (relation.ownerForeignKey key)
      owned.ensureField key primaryKey
    | .toMany _ => request.ensureField key (relation.relatedForeignKey scope.main.name)
    | .manyToMany .. =>
      { request with fields := request.fields.modify key (qualifyKey key primaryKey) }.ensureField
        scope.main.name scope.main.primaryKey

/-- The keys other than the main one. -/
def otherKeys {α : Type} (scope : Scope) (m : OrderedMap α) : List String :=
  m.keys.filter (!scope.isMain ·)

/-- Resolves every key with a selection, in order. -/
def joinRelations (scope : Scope) (request : Request) : Request :=
  (otherKeys scope request.fields).foldl (join scope) request

/-- Why filters under a key are dropped, if they are. -/
def filterProblem? (scope : Scope) (key : String) : Option Problem :=
  match scope.main.relation? key with
  | none => some (.unknownRelation scope.main.name key)
  | some relation =>
    if (scope.registry.find? relation.target).isSome then none else some (.unknownResource key)

/-- Drops the filters under a key that leads to no known resource. -/
def dropFilters (scope : Scope) (request : Request) (key : String) : Request :=
  match filterProblem? scope key with
  | none => request
  | some problem => { request with filters := request.filters.erase key }.report problem

/-- Drops filters under every key that leads to no known resource, in order. -/
def resolveFilters (scope : Scope) (request : Request) : Request :=
  (otherKeys scope request.filters).foldl (dropFilters scope) request

end Retrieval.Request
