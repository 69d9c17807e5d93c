import Retrieval.Proofs.Plan.Columns

/-!
# Filters sent for a single entity

Filters are for lists, so the plan of a single entity has no conditions. Its filters are still read,
and the pass that selects the fields of filters does not ask for the action. So a client that asks
for a single entity sees the columns it filters by.

It sees no more than that (`Plan.ApartByFilters`). The plans of two requests for an entity that
differ only in their filters differ only in columns, and each such column is brought by a filter of
one of them. The plans are the same if the filters of both add the same fields to those that are
chosen (`Scope.gained`): operators and literals never matter, and neither do filters on fields that
are there anyway.
-/

namespace Retrieval

/-- The fields that filters add to those chosen under a key. A star has them all. -/
def Scope.gained (scope : Scope) (confined : Bool) (params : RawParams) (key : String) :
    List String :=
  if scope.chosen params key = [wildcard] then []
  else (scope.keptFields confined params key).filter (· ∉ scope.chosen params key)

/-- Whether two plans of a single entity differ at most in the columns that filters bring. -/
structure Plan.ApartByFilters (scope : Scope) (confined : Bool) (params others : RawParams)
    (plan other : Plan) : Prop where
  predicates : plan.predicates = [] ∧ other.predicates = []
  /-- All but the columns is the same. A column that only one of them has is brought by its
  filters. -/
  alike : plan.Alike (fun key columns columns' =>
    (∀ name ∈ columns.toList, name ∈ columns'.toList ∨
      scope.Brings key (scope.keptFields confined params key)
        (scope.keptFields confined others key) name) ∧
    ∀ name ∈ columns'.toList, name ∈ columns.toList ∨
      scope.Brings key (scope.keptFields confined others key)
        (scope.keptFields confined params key) name) other
  /-- The fields that filters add to the main resource are columns. -/
  shown : (∀ name ∈ scope.gained confined params scope.main.name, name ∈ plan.columns.toList) ∧
    ∀ name ∈ scope.gained confined others scope.main.name, name ∈ other.columns.toList
  /-- The plans are the same if filters add the same fields to both. -/
  eq_of_gained : (∀ key, scope.gained confined params key = scope.gained confined others key) →
    plan = other

namespace Scope

variable {scope : Scope} {confined : Bool} {params : RawParams} {filters : OrderedMap RawValue}
  {key : String}

/-! ## Columns that filters add -/

/-- What filters add to the main resource is listed for it. -/
theorem mem_mainList_of_mem_gained {name : String}
    (mem : name ∈ scope.gained confined params scope.main.name) :
    name ∈ scope.mainList confined params := by
  rw [gained] at mem
  split at mem
  case isTrue => exact absurd mem List.not_mem_nil
  case isFalse plain =>
    rw [mainList, if_neg plain, List.mem_eraseDups]
    apply List.mem_append_left
    exact List.mem_append_right _ (List.mem_filter.1 mem).1

/-- Fields of filters that are chosen already add nothing. -/
theorem eraseDups_gained (plain : scope.chosen params key ≠ [wildcard]) :
    (scope.chosen params key ++ scope.keptFields confined params key).eraseDups =
      (scope.chosen params key ++ scope.gained confined params key).eraseDups := by
  rw [gained, if_neg plain, FieldSet.eraseDups_append_filter]

/-- What is chosen or filtered by is the same where filters add the same fields. -/
theorem eraseDups_of_gained (plain : scope.chosen params key ≠ [wildcard])
    (same : scope.gained confined params key = scope.gained confined { params with filters } key) :
    (scope.chosen params key ++ scope.keptFields confined params key).eraseDups =
      (scope.chosen params key
        ++ scope.keptFields confined { params with filters } key).eraseDups := by
  have plain' : scope.chosen { params with filters } key ≠ [wildcard] := plain
  rw [eraseDups_gained plain, same, ← chosen_filters params filters, eraseDups_gained plain']

/-- The list of the main resource depends on filters only by what they add. -/
theorem mainList_of_gained (same : scope.gained confined params scope.main.name =
    scope.gained confined { params with filters } scope.main.name) :
    scope.mainList confined params = scope.mainList confined { params with filters } := by
  rw [mainList, mainList, chosen_filters params filters, loaded_filters params filters]
  split
  case isTrue => rfl
  case isFalse plain =>
    have fields := eraseDups_of_gained plain same
    rw [keptFields, keptFields] at fields
    -- the keys of relations come behind what is chosen or filtered by
    rw [← FieldSet.eraseDups_append_left, fields, FieldSet.eraseDups_append_left]

/-- The list of a relation depends on filters only by what they add. -/
theorem relatedList_of_gained (relation : Relation) (target : Metadata)
    (same : scope.gained confined params key = scope.gained confined { params with filters } key) :
    scope.relatedList confined params key relation target =
      scope.relatedList confined { params with filters } key relation target := by
  rw [relatedList, relatedList, chosen_filters params filters]
  split
  case isTrue => rfl
  case isFalse plain =>
    have fields := eraseDups_of_gained plain same
    rw [keptFields, keptFields] at fields
    cases relation.kind with
    | toOne | toMany =>
      dsimp only
      rw [← FieldSet.eraseDups_append_left, fields, FieldSet.eraseDups_append_left]
    | manyToMany =>
      dsimp only
      rw [fields]

/-! ## The plans -/

variable {settings : Settings}

/-- The plan of an entity depends on the filters through the fields that they add. -/
theorem plan_of_gained (id : Option String) (same : ∀ key,
    scope.gained settings.strictFilters params key =
      scope.gained settings.strictFilters { params with filters } key) :
    scope.plan settings params .entity id =
      scope.plan settings { params with filters } .entity id := by
  have loads (key : String) : scope.load? settings.strictFilters params key =
      scope.load? settings.strictFilters { params with filters } key := by
    simp only [load?, relatedList_of_gained _ _ (same key)]
    rfl
  apply Plan.ext
  case columns =>
    show FieldSet.ofList _ = FieldSet.ofList _
    rw [mainList_of_gained (same scope.main.name)]
  case eager => exact List.filterMap_congr fun key _ => loads key
  all_goals rfl

/-- Plans of an entity differ only by what filters add to their columns. -/
theorem plan_apartByFilters (settings : Settings) (params : RawParams)
    (filters : OrderedMap RawValue) (id : Option String) :
    (scope.plan settings params .entity id).ApartByFilters scope settings.strictFilters params
      { params with filters } (scope.plan settings { params with filters } .entity id) := by
  constructor
  case predicates => exact ⟨rfl, rfl⟩
  case alike =>
    apply plan_alike
    · simp only [FieldSet.mem_toList_ofList]
      exact ⟨fun name => mem_mainList_or_brings, fun name => mem_mainList_or_brings⟩
    · intro key _ relation target related
      simp only [FieldSet.mem_toList_ofList]
      constructor
      · exact fun name => mem_relatedList_or_brings related
      · exact fun name => mem_relatedList_or_brings related
  case shown =>
    rw [plan, plan]
    simp only [FieldSet.mem_toList_ofList]
    exact ⟨fun name => mem_mainList_of_mem_gained, fun name => mem_mainList_of_mem_gained⟩
  case eq_of_gained => exact plan_of_gained id

end Scope

/-! ## Conversions -/

namespace Converter

/-- What filters do to the conversion of a single entity: whether it fails does not depend on them,
and its plan does through the columns that they add. -/
theorem apartByFilters_of_entity (converter : Converter) (resourceType : String)
    (params : RawParams) (filters : OrderedMap RawValue) (id : Option String) :
    Except.Agree (fun conversion other => ∃ scope, converter.scope resourceType = .ok scope ∧
        conversion.plan.ApartByFilters scope converter.settings.strictFilters params
          { params with filters } other.plan)
      (converter.convert resourceType params .entity id)
      (converter.convert resourceType { params with filters } .entity id) := by
  refine agree_convert rfl fun scope found => ?_
  exact ⟨scope, found, Scope.plan_apartByFilters converter.settings params filters id⟩

/-- A filter adds a column to the plan of a post, though nothing is to be filtered. -/
theorem entity_ne_of_filter_blog :
    let converter : Converter := ⟨Example.blog, .standard⟩
    let filters : OrderedMap RawValue := ⟨[("post", .one "secret = 1")], by decide⟩
    ∃ conversion other, converter.convert "Post" .empty .entity (some "1") = .ok conversion ∧
      converter.convert "Post" { RawParams.empty with filters } .entity (some "1") = .ok other ∧
      conversion.plan.columns.toList = ["id", "title"] ∧
      other.plan.columns.toList = ["id", "title", "secret"] ∧ conversion.plan ≠ other.plan := by
  intro converter filters
  refine ⟨_, _, rfl, rfl, by decide +kernel, by decide +kernel, ?_⟩
  intro same
  have columns := congrArg (·.columns.toList) same
  revert columns
  decide +kernel

end Converter

end Retrieval
