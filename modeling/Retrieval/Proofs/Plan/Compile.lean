import Retrieval.Proofs.Request.FieldLists

/-!
# The parts of a plan

Where the names of a plan come from. The plan of a request that was read has the lists of
`Scope.fieldList?` for columns; it loads a relation where a list stands under it
(`EagerLoad.Loads`), and its conditions are the filters that are kept (`Predicate.Asks`). Every
statement about the plans of conversions starts from these.
-/

namespace Retrieval

/-- A relation to load as its declaration and the parameters have it. -/
structure EagerLoad.Loads (scope : Scope) (confined : Bool) (params : RawParams)
    (relation : Relation) (target : Metadata) (load : EagerLoad) : Prop where
  relational : load.relation ≠ scope.main.name
  related : scope.related? load.relation = some (relation, target)
  chosen : scope.chosen params load.relation ≠ []
  table : load.table = target.table
  primaryKey : load.primaryKey = target.primaryKey
  columns : load.columns.toList = scope.relatedList confined params load.relation relation target
  correlation : load.correlation = relation.correlation load.relation scope.main target

/-- A relation to load is one of those under which something is chosen. -/
theorem EagerLoad.Loads.mem_loaded {scope : Scope} {confined : Bool} {params : RawParams}
    {relation : Relation} {target : Metadata} {load : EagerLoad}
    (loads : load.Loads scope confined params relation target) :
    load.relation ∈ scope.loaded params := by
  have declared := (Scope.related?_eq_some_iff.1 loads.related).1
  refine (Scope.mem_loaded_iff params).2 ⟨?_, loads.relational, loads.chosen⟩
  exact OrderedMap.mem_keys_iff.2 ⟨relation, declared⟩

/-- A condition as the parameters have it: a filter that is kept on the main resource, or all the
filters kept on a relation. -/
def Predicate.Asks (scope : Scope) (confined : Bool) (params : RawParams) : Predicate → Prop
  | .filter f => f ∈ scope.kept confined params scope.main.name
  | .related key table correlation filters =>
    key ≠ scope.main.name ∧ ∃ relation target, scope.related? key = some (relation, target) ∧
      table = target.table ∧ correlation = relation.correlation key scope.main target ∧
        filters = scope.kept confined params key

namespace Plan

variable {scope : Scope} {settings : Settings} {params : RawParams} {action : Action}
  {id : Option String}

/-- The plan of the request that is read from some parameters. -/
def ofParams (scope : Scope) (settings : Settings) (params : RawParams) (action : Action)
    (id : Option String) : Plan :=
  .ofRequest scope (Request.read scope settings params action) id

/-- The main columns of a plan are listed by the parameters. -/
theorem columns_ofParams (valid : scope.main.Valid) :
    (ofParams scope settings params action id).columns.toList =
      scope.mainList settings.strictFilters params := by
  have lists := Request.read_mainList params settings action valid
  rw [← Request.read_resource scope settings params action, ← Request.mainFields?] at lists
  obtain ⟨fields, found, eq⟩ := Option.map_eq_some_iff.1 lists
  rw [ofParams, ofRequest, found, Option.getD_some, eq]

/-- The relations of a request are its keys but for the main one. -/
theorem mem_relations_read_iff {key : String} {columns : FieldSet} :
    (key, columns) ∈ (Request.read scope settings params action).relations ↔
      (Request.read scope settings params action).fields.find? key = some columns ∧
        key ≠ scope.main.name := by
  rw [Request.relations, Request.read_resource, List.mem_filter, OrderedMap.mem_entries_iff,
    decide_eq_true_iff]

/-- Every relation to load is declared, leads somewhere, and has the columns of its list. -/
theorem loads_of_mem_eager (valid : scope.main.Valid) {load : EagerLoad}
    (mem : load ∈ (ofParams scope settings params action id).eager) :
    ∃ relation target, load.Loads scope settings.strictFilters params relation target := by
  obtain ⟨⟨key, columns⟩, inRequest, loaded⟩ := List.mem_filterMap.1 mem
  obtain ⟨found, relational⟩ := mem_relations_read_iff.1 inRequest
  have lists := Request.read_fieldList? params settings action valid key
  simp only [eagerLoad?, Option.bind_eq_bind, Option.bind_eq_some_iff, Option.pure_def,
    Option.some.injEq] at loaded
  obtain ⟨⟨relation, target⟩, related, rfl⟩ := loaded
  rw [found, Option.map_some, Scope.fieldList?, if_neg relational, related,
    Option.bind_some] at lists
  dsimp only at lists
  split at lists
  case isTrue => simp at lists
  case isFalse chosen =>
    exact ⟨relation, target, relational, related, chosen, rfl, rfl, Option.some.inj lists, rfl⟩

variable (settings action id) in
/-- Every relation under which fields are chosen is loaded. -/
theorem exists_loads (valid : scope.main.Valid) {key : String} {relation : Relation}
    {target : Metadata} (relational : key ≠ scope.main.name)
    (related : scope.related? key = some (relation, target))
    (chosen : scope.chosen params key ≠ []) :
    ∃ load ∈ (ofParams scope settings params action id).eager, load.relation = key ∧
      load.Loads scope settings.strictFilters params relation target := by
  have lists := Request.read_relatedList params settings action valid relational related
  rw [if_neg chosen] at lists
  obtain ⟨columns, found, eq⟩ := Option.map_eq_some_iff.1 lists
  obtain ⟨load, loaded⟩ : ∃ load, eagerLoad? scope (Request.read scope settings params action) key
      columns = some load := by
    rw [eagerLoad?, related]
    exact ⟨_, rfl⟩
  have mem : load ∈ (ofParams scope settings params action id).eager :=
    List.mem_filterMap.2 ⟨(key, columns), mem_relations_read_iff.2 ⟨found, relational⟩, loaded⟩
  have name : load.relation = key := by
    rw [eagerLoad?, related] at loaded
    exact (Option.some.inj loaded) ▸ rfl
  -- the load is that of some relation, and the key has only one
  obtain ⟨declared, registered, loads⟩ := loads_of_mem_eager valid mem
  have same := loads.related
  rw [name, related] at same
  obtain ⟨rfl, rfl⟩ := Prod.mk.inj (Option.some.inj same)
  exact ⟨load, mem, name, loads⟩

/-- The conditions of a plan are the filters that are kept. -/
theorem asks_of_mem_predicates {predicate : Predicate}
    (mem : predicate ∈ (ofParams scope settings params action id).predicates) :
    predicate.Asks scope settings.strictFilters params := by
  rw [ofParams, ofRequest] at mem
  dsimp only at mem
  split at mem
  case isFalse => simp at mem
  case isTrue =>
    obtain ⟨⟨key, filters⟩, inRequest, mem⟩ := List.mem_flatMap.1 mem
    have found := (OrderedMap.mem_entries_iff _ _ _).1 inRequest
    -- what stands under a key of the request are the filters that are kept under it
    have kept {metadata : Metadata} (leads : scope.resource? key = some metadata) :
        filters = scope.kept settings.strictFilters params key := by
      rw [← Request.read_kept params settings action leads, found, Option.getD_some]
    unfold conditions at mem
    split at mem
    case isTrue => simp at mem
    case isFalse =>
      split at mem
      case isTrue main =>
        obtain rfl : key = scope.main.name := of_decide_eq_true main
        obtain ⟨f, inFilters, rfl⟩ := List.mem_map.1 mem
        rw [kept Scope.resource?_main] at inFilters
        exact inFilters
      case isFalse relational =>
        have ne : key ≠ scope.main.name := fun eq => relational (decide_eq_true eq)
        cases related : scope.related? key with
        | none => simp [related] at mem
        | some pair =>
          obtain ⟨relation, target⟩ := pair
          rw [related, List.mem_singleton] at mem
          subst mem
          exact ⟨ne, relation, target, related, rfl, rfl,
            kept (Scope.resource?_of_related? ne related)⟩

/-- Rows are ordered only by what may be sorted by. -/
theorem canSort_of_mem_sort {key : SortKey}
    (mem : key ∈ (ofParams scope settings params action id).sort) :
    scope.main.canSort key.field := by
  rw [ofParams, ofRequest] at mem
  dsimp only at mem
  split at mem
  case isFalse => simp at mem
  case isTrue =>
    rw [Request.read_sorting] at mem
    split at mem
    case isTrue => exact (List.mem_filter.1 mem).2
    case isFalse => simp at mem

end Plan

end Retrieval
