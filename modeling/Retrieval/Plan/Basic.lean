import Retrieval.Request.Basic

/-!
# Query plans

A plan says what to fetch without saying how: the columns of the main table, the related rows to
load with each main row, the conditions on main rows, their order, and either the key of a single
row or the page of a list. It is plain data, so its names may be any texts.
-/

namespace Retrieval

/-- The columns that tie a related row to a main row. -/
inductive Correlation where
  | toOne (foreignKey ownerKey : String)
  | toMany (foreignKey localKey : String)
  | manyToMany (pivot foreignPivotKey relatedPivotKey localKey relatedKey : String)
deriving DecidableEq

/-- Related rows that are loaded with each main row. -/
structure EagerLoad where
  /-- The relation; it is also the alias of the related table and the name of the result. -/
  relation : String
  table : String
  primaryKey : String
  columns : FieldSet
  correlation : Correlation
  limit : Option UInt64
deriving DecidableEq

/-- A condition on main rows. -/
inductive Predicate where
  | filter (filter : Filter)
  /-- There is a related row that meets every filter. -/
  | related (relation table : String) (correlation : Correlation) (filters : List Filter)
deriving DecidableEq

/-- How a single row is found. -/
inductive Lookup where
  | primary (key value : String)
  /-- By the primary key, compared as text, or by a second key. -/
  | primaryOrAlternate (key alternate value : String)
deriving DecidableEq

/-- A query in data. -/
structure Plan where
  resourceType : String
  table : String
  label : String
  columns : FieldSet
  eager : List EagerLoad
  predicates : List Predicate
  sort : List SortKey
  lookup : Option Lookup
  window : Option Window
deriving DecidableEq

namespace Correlation

/-- Whether at most one related row is tied to a main row. -/
def isToOne : Correlation → Bool
  | toOne .. => true
  | _ => false

/-- The record of a correlation. -/
def toValue : Correlation → Value
  | toOne foreignKey ownerKey => .record [("kind", .text "to_one"),
      ("foreign_key", .text foreignKey), ("owner_key", .text ownerKey)]
  | toMany foreignKey localKey => .record [("kind", .text "to_many"),
      ("foreign_key", .text foreignKey), ("local_key", .text localKey)]
  | manyToMany pivot foreignPivotKey relatedPivotKey localKey relatedKey =>
    .record [("kind", .text "many_to_many"),
      ("pivot", .text pivot), ("foreign_pivot_key", .text foreignPivotKey),
      ("related_pivot_key", .text relatedPivotKey), ("local_key", .text localKey),
      ("related_key", .text relatedKey)]

end Correlation

/-- The record of related rows to load. -/
def EagerLoad.toValue (load : EagerLoad) : Value :=
  .record ([("relation", .text load.relation), ("table", .text load.table),
    ("primary_key", .text load.primaryKey), ("columns", .ofTexts load.columns.toList),
    ("correlation", load.correlation.toValue)] ++ Value.fieldOf? "limit" .ofCount load.limit)

/-- The record of a condition. -/
def Predicate.toValue : Predicate → Value
  | filter f => .record (("kind", .text "filter") :: f.toFields)
  | related relation table correlation filters => .record [("kind", .text "exists"),
      ("relation", .text relation), ("table", .text table),
      ("correlation", correlation.toValue), ("filters", .list (filters.map Filter.toValue))]

/-- The record of a lookup. -/
def Lookup.toValue : Lookup → Value
  | primary key value => .record [("kind", .text "primary_key"), ("key", .text key),
      ("value", .text value)]
  | primaryOrAlternate key alternate value => .record [("kind", .text "primary_or_alternate"),
      ("key", .text key), ("alternate", .text alternate), ("value", .text value)]

namespace Plan

/-- Whether at most one row is asked for. -/
def isSingle (plan : Plan) : Bool := plan.lookup.isSome

/-- The record of a plan; an absent lookup or window is not written. -/
def toValue (plan : Plan) : Value :=
  .record ([("resource_type", .text plan.resourceType), ("table", .text plan.table),
    ("alias", .text plan.label), ("columns", .ofTexts plan.columns.toList),
    ("eager", .list (plan.eager.map EagerLoad.toValue)),
    ("predicates", .list (plan.predicates.map Predicate.toValue)),
    ("sort", .list (plan.sort.map SortKey.toValue))]
    ++ Value.fieldOf? "lookup" Lookup.toValue plan.lookup
    ++ Value.fieldOf? "window" Window.toValue plan.window)

end Plan

end Retrieval
