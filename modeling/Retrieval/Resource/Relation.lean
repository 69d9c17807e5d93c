import Retrieval.Value.Basic

/-!
# Relations

A relation leads from one resource to another. Its kind says which table holds the key that joins
them:

* to one: the main table, in `<relation>_id`;
* to many: the related table, in `<main>_id`;
* many to many: a pivot table named after both resources in the order of their names, in
  `<main>_id` and `<related>_id`.

A declaration may give any of these names itself.
-/

namespace Retrieval

/-- How many entities a relation leads to, with the names given for its keys. -/
inductive Relation.Kind where
  | toOne (foreignKey : Option String)
  | toMany (foreignKey : Option String)
  | manyToMany (pivot foreignPivotKey relatedPivotKey : Option String)
deriving DecidableEq

/-- A relation to a resource type. -/
structure Relation where
  target : String
  kind : Relation.Kind
deriving DecidableEq

/-- The names that join two resources through a pivot table. -/
structure PivotKeys where
  pivot : String
  foreign : String
  related : String
deriving DecidableEq

namespace Relation

/-! ## Kinds and keys -/

/-- A relation of a kind without names of its own. -/
def Kind.ofWord? : String → Option Kind
  | "to_one" => some (.toOne none)
  | "to_many" => some (.toMany none)
  | "many_to_many" => some (.manyToMany none none none)
  | _ => none

/-- The word for a kind. -/
def Kind.word : Kind → String
  | toOne _ => "to_one"
  | toMany _ => "to_many"
  | manyToMany .. => "many_to_many"

/-- The relation with a name for the key of the main resource: the foreign key, or the pivot column
of a many-to-many relation. -/
def withForeignKey (relation : Relation) (key : String) : Relation :=
  { relation with kind := match relation.kind with
    | .toOne _ => .toOne (some key)
    | .toMany _ => .toMany (some key)
    | .manyToMany pivot _ related => .manyToMany pivot (some key) related }

/-- The relation with a name for its pivot table, if it has one. -/
def withPivot (relation : Relation) (table : String) : Relation :=
  { relation with kind := match relation.kind with
    | .manyToMany _ foreign related => .manyToMany (some table) foreign related
    | kind => kind }

/-- The relation with a name for the pivot column of the related resource, if it has one. -/
def withRelatedPivotKey (relation : Relation) (key : String) : Relation :=
  { relation with kind := match relation.kind with
    | .manyToMany pivot foreign _ => .manyToMany pivot foreign (some key)
    | kind => kind }

/-! ## Conventions -/

/-- The conventional name of a key that points to a resource. -/
def conventionalKey (resource : String) : String := resource ++ "_id"

/-- The column of the main table that holds the key of a to-one relation of a given name. -/
def ownerForeignKey (relation : Relation) (name : String) : String :=
  match relation.kind with
  | .toOne (some key) => key
  | _ => conventionalKey name

/-- The column of the related table that holds the key of a to-many relation. -/
def relatedForeignKey (relation : Relation) (mainName : String) : String :=
  match relation.kind with
  | .toMany (some key) => key
  | _ => conventionalKey mainName

/-- The conventional pivot table of two resources: their names in order. -/
def conventionalPivot (a b : String) : String := if a ≤ b then s!"{a}_{b}" else s!"{b}_{a}"

/-- The pivot table of a many-to-many relation and its columns. -/
def pivotKeys (relation : Relation) (mainName relatedName : String) : PivotKeys :=
  let (pivot, foreign, related) := match relation.kind with
    | .manyToMany pivot foreign related => (pivot, foreign, related)
    | _ => (none, none, none)
  { pivot := pivot.getD (conventionalPivot mainName relatedName)
    foreign := foreign.getD (conventionalKey mainName)
    related := related.getD (conventionalKey relatedName) }

/-- The names that the declaration gives. -/
def givenNames (relation : Relation) : List String :=
  match relation.kind with
  | .toOne key | .toMany key => key.toList
  | .manyToMany pivot foreign related => pivot.toList ++ foreign.toList ++ related.toList

/-! ## Records -/

/-- The kinds by number. -/
def kindWords : List String := ["to_one", "to_many", "many_to_many"]

/-- The word for the kind in a record, given as a text or, in some notations, as a number. -/
def kindWord? (form : Value.Form) : Value → Option String
  | .text word => some word
  | .int n => if form.numberedKinds ∧ 0 ≤ n then kindWords[n.toNat]? else none
  | _ => none

/-- The kind of a record with its own names; names of other kinds are passed over. -/
def kind? (form : Value.Form) (fields : List (String × Value)) : Option Kind := do
  let name := fun key => Value.optional? none Value.asTextOrNull? key fields
  match ← Kind.ofWord? (← kindWord? form (← fields.lookup "kind")) with
  | .toOne _ => return .toOne (← name "foreign_key")
  | .toMany _ => return .toMany (← name "foreign_key")
  | .manyToMany .. =>
    return .manyToMany (← name "pivot") (← name "foreign_pivot_key") (← name "related_pivot_key")

/-- Reads a relation; it is always given by name. -/
def ofValue? (form : Value.Form) : Value → Option Relation
  | .record fields => do
    if fields.all fun field => field.2.isBounded then
      return ⟨← Value.required? Value.asText? "target" fields, ← kind? form fields⟩
    else none
  | _ => none

/-- Writes the target, the kind and the names of the kind, an absent one as null. -/
def toValue (relation : Relation) : Value :=
  .record (("target", .text relation.target) :: ("kind", .text relation.kind.word) ::
    match relation.kind with
    | .toOne key | .toMany key => [("foreign_key", .ofText? key)]
    | .manyToMany pivot foreign related => [("pivot", .ofText? pivot),
        ("foreign_pivot_key", .ofText? foreign), ("related_pivot_key", .ofText? related)])

end Relation

end Retrieval
