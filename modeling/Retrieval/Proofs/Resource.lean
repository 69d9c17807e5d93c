import Retrieval.Proofs.Ident
import Retrieval.Proofs.OrderedMap
import Retrieval.Resource.Scope

/-!
# Names in valid descriptions

Only valid descriptions are registered, so every name that a registry gives away is the name of an
identifier, and so is every key that a relation gives or takes by convention. Neither the star nor
the empty text is a name.
-/

namespace Retrieval

namespace Registry

/-- What a registry knows of a type is valid. -/
theorem valid_of_find? {registry : Registry} {resourceType : String} {metadata : Metadata}
    (h : registry.find? resourceType = some metadata) : metadata.Valid :=
  registry.valid (resourceType, metadata) ((registry.resources.mem_entries_iff _ _).2 h)

end Registry

namespace Metadata.Valid

variable {metadata : Metadata} (valid : metadata.Valid)
include valid

theorem isName_name : Ident.isName metadata.name := valid _ (by simp [names])

theorem isName_table : Ident.isName metadata.table := valid _ (by simp [names])

theorem isName_primaryKey : Ident.isName metadata.primaryKey := valid _ (by simp [names])

/-- A field that may be selected is a name. -/
theorem isName_of_canSelect {field : String} (h : metadata.canSelect field) :
    Ident.isName field := by
  rw [canSelect, List.contains_iff_mem] at h
  exact valid _ (by simp [names, h])

/-- A field that may be sorted by is a name. -/
theorem isName_of_canSort {field : String} (h : metadata.canSort field) : Ident.isName field := by
  rw [canSort, List.contains_iff_mem] at h
  exact valid _ (by simp [names, h])

theorem isName_alternateKey {key : String} (h : metadata.alternateKey = some key) :
    Ident.isName key := valid _ (by simp [names, h])

/-- What a relation is called is a name, and so is all that it gives. -/
theorem names_of_relation {name other : String} {relation : Relation}
    (h : metadata.relation? name = some relation) (mem : other ∈ name :: relation.givenNames) :
    Ident.isName other := by
  refine valid other ?_
  rw [names, List.mem_append, List.mem_flatMap]
  exact .inr ⟨(name, relation), (metadata.relations.mem_entries_iff name relation).2 h, mem⟩

theorem isName_relation {name : String} {relation : Relation}
    (h : metadata.relation? name = some relation) : Ident.isName name :=
  valid.names_of_relation h List.mem_cons_self

/-- A field that may be selected is no star. -/
theorem not_canSelect_wildcard {field : String} (h : Ident.isName field = false) :
    metadata.canSelect field = false := by
  refine Bool.eq_false_iff.2 fun selectable => ?_
  rw [valid.isName_of_canSelect selectable] at h
  exact Bool.noConfusion h

end Metadata.Valid

namespace Relation

/-- The key by convention is a name. -/
theorem isName_conventionalKey {resource : String} (h : Ident.isName resource) :
    Ident.isName (conventionalKey resource) :=
  Ident.isName_append h (by decide)

/-- The pivot table by convention is a name. -/
theorem isName_conventionalPivot {a b : String} (ha : Ident.isName a) (hb : Ident.isName b) :
    Ident.isName (conventionalPivot a b) := by
  have between {a b : String} (ha : Ident.isName a) (hb : Ident.isName b) :
      Ident.isName (a ++ "_" ++ b) :=
    Ident.isName_append (Ident.isName_append ha (by decide)) hb
  rw [conventionalPivot]
  split
  · exact between ha hb
  · exact between hb ha

variable {main related : Metadata} {name : String} {relation : Relation}

/-- The key in the main table is a name, whether it is given or not. -/
theorem isName_ownerForeignKey (valid : main.Valid) (h : main.relation? name = some relation) :
    Ident.isName (relation.ownerForeignKey name) := by
  rw [ownerForeignKey]
  split
  case h_1 key eq => exact valid.names_of_relation h (by simp [givenNames, eq])
  case h_2 => exact isName_conventionalKey (valid.isName_relation h)

/-- The key in the related table is a name, whether it is given or not. -/
theorem isName_relatedForeignKey (valid : main.Valid) (h : main.relation? name = some relation) :
    Ident.isName (relation.relatedForeignKey main.name) := by
  rw [relatedForeignKey]
  split
  case h_1 key eq => exact valid.names_of_relation h (by simp [givenNames, eq])
  case h_2 => exact isName_conventionalKey valid.isName_name

/-- The pivot table of a relation and its columns are names, given or conventional. -/
theorem isName_pivotKeys (valid : main.Valid) (valid' : related.Valid)
    (h : main.relation? name = some relation) :
    Ident.isName (relation.pivotKeys main.name related.name).pivot ∧
      Ident.isName (relation.pivotKeys main.name related.name).foreign ∧
      Ident.isName (relation.pivotKeys main.name related.name).related := by
  -- each of the three is given or falls back on the convention
  have orElse {given : Option String} {fallback : String}
      (named : ∀ key, given = some key → Ident.isName key) (h : Ident.isName fallback) :
      Ident.isName (given.getD fallback) := by
    cases given with
    | none => exact h
    | some key => exact named key rfl
  have given {key : String} (mem : key ∈ relation.givenNames) : Ident.isName key :=
    valid.names_of_relation h (List.mem_cons_of_mem _ mem)
  rw [pivotKeys]
  cases kind : relation.kind with
  | toOne | toMany =>
    exact ⟨isName_conventionalPivot valid.isName_name valid'.isName_name,
      isName_conventionalKey valid.isName_name, isName_conventionalKey valid'.isName_name⟩
  | manyToMany pivot foreign related =>
    refine ⟨orElse (fun key eq => given ?_) ?_, orElse (fun key eq => given ?_) ?_,
      orElse (fun key eq => given ?_) ?_⟩
    · simp [givenNames, kind, eq]
    · exact isName_conventionalPivot valid.isName_name valid'.isName_name
    · simp [givenNames, kind, eq]
    · exact isName_conventionalKey valid.isName_name
    · simp [givenNames, kind, eq]
    · exact isName_conventionalKey valid'.isName_name

end Relation

end Retrieval
