import Retrieval.Proofs.Plan.Compile

/-!
# Confinement of plans

Where filters are confined, a client cannot reach a column that is not declared for it: not by
selecting it, not by filtering by it, not by sorting by it (`Plan.Confined`). The keys that tie
related rows to main rows are the only other columns of a plan, and they belong to relations that
are loaded. No list of columns is empty, so that a statement never falls back on all columns of a
table.

Every list is taken apart as it was put together: chosen names (`Scope.mem_chosen`), fields of kept
filters (`Scope.mem_selectable_of_mem_kept`), and joining keys.
-/

namespace Retrieval

/-- The columns that may be taken of the main table. -/
inductive Plan.MayTake (scope : Scope) (plan : Plan) (name : String) : Prop where
  | selectable (declared : name ∈ scope.main.selectable)
  | star (star : name = wildcard) (undeclared : scope.main.selectable = [])
  | foreignKey {load : EagerLoad} {ownerKey : String} (loaded : load ∈ plan.eager)
    (tied : load.correlation = .toOne name ownerKey)
  | primaryKey {load : EagerLoad} {pivot foreign related localKey relatedKey : String}
    (loaded : load ∈ plan.eager)
    (tied : load.correlation = .manyToMany pivot foreign related localKey relatedKey)
    (key : name = scope.main.primaryKey)

/-- The columns that may be taken of a related table. -/
inductive EagerLoad.MayTake (target : Metadata) (load : EagerLoad) (name : String) : Prop where
  | selectable (declared : name ∈ target.selectable)
  | star (star : name = wildcard) (undeclared : target.selectable = [])
  | toOne {foreignKey ownerKey : String} (tied : load.correlation = .toOne foreignKey ownerKey)
    (key : name = target.primaryKey)
  | toMany {localKey : String} (tied : load.correlation = .toMany name localKey)
  /-- The primary key of a many-to-many relation behind the name of the relation, if the key may be
  selected. -/
  | manyToMany {pivot foreign related localKey relatedKey : String}
    (tied : load.correlation = .manyToMany pivot foreign related localKey relatedKey)
    (key : name = s!"{load.relation}.{target.primaryKey}")
    (declared : target.primaryKey ∈ target.selectable)

/-- A plan that reaches nothing that is not declared. -/
structure Plan.Confined (scope : Scope) (plan : Plan) : Prop where
  columns : ∀ name ∈ plan.columns.toList, plan.MayTake scope name
  columns_isEmpty : plan.columns.isEmpty = false
  eager : ∀ load ∈ plan.eager, ∃ relation target,
    scope.related? load.relation = some (relation, target) ∧
      load.correlation = relation.correlation load.relation scope.main target ∧
      (∀ name ∈ load.columns.toList, load.MayTake target name) ∧ load.columns.isEmpty = false
  filters : ∀ f, .filter f ∈ plan.predicates → f.field ∈ scope.main.selectable
  related : ∀ key table correlation filters,
    .related key table correlation filters ∈ plan.predicates →
      ∃ relation target, scope.related? key = some (relation, target) ∧
        ∀ f ∈ filters, f.field ∈ target.selectable
  sort : ∀ key ∈ plan.sort, key.field ∈ scope.main.sortable

/-! ## Names that are chosen and filtered by -/

namespace Scope

variable {scope : Scope} {params : RawParams} {key name : String} {metadata : Metadata}

/-- Filters that are kept where they are confined are on declared fields. -/
theorem mem_selectable_of_mem_kept {filter : Filter} (found : scope.resource? key = some metadata)
    (mem : filter ∈ scope.kept true params key) : filter.field ∈ metadata.selectable := by
  rw [kept_of_resource? params true found] at mem
  exact List.contains_iff_mem.1 (List.mem_filter.1 mem).2

/-- Chosen names and fields of confined filters together. -/
theorem mem_chosen_or_kept (found : scope.resource? key = some metadata)
    (mem : name ∈ scope.chosen params key ++ (scope.kept true params key).map (·.field)) :
    name ∈ metadata.selectable ∨ name = wildcard ∧ metadata.selectable = [] := by
  rcases List.mem_append.1 mem with mem | mem
  · exact mem_chosen found mem
  · obtain ⟨filter, kept, rfl⟩ := List.mem_map.1 mem
    exact .inl (mem_selectable_of_mem_kept found kept)

/-- A loaded relation leads to a registered resource. -/
theorem related?_of_mem_loaded (mem : key ∈ scope.loaded params) :
    ∃ relation target, scope.related? key = some (relation, target) := by
  obtain ⟨-, relational, chosen⟩ := (mem_loaded_iff params).1 mem
  cases related : scope.related? key with
  | none => exact absurd (chosen_of_dangling params relational related) chosen
  | some pair => exact ⟨pair.1, pair.2, rfl⟩

end Scope

/-! ## The lists of columns -/

namespace Plan

variable {scope : Scope} {settings : Settings} {params : RawParams} {action : Action}
  {id : Option String}

/-- What is chosen may be taken. -/
theorem mayTake_of_mem_chosen {plan : Plan} {name : String}
    (h : name ∈ scope.main.selectable ∨ name = wildcard ∧ scope.main.selectable = []) :
    plan.MayTake scope name :=
  h.elim .selectable fun ⟨star, undeclared⟩ => .star star undeclared

/-- A key that joins a loaded relation may be taken of the main table. -/
theorem mayTake_of_mem_mainKeys (valid : scope.main.Valid) {key name : String}
    (loaded : key ∈ scope.loaded params) (mem : name ∈ Request.mainKeys scope key) :
    (ofParams scope settings params action id).MayTake scope name := by
  obtain ⟨relation, target, related⟩ := Scope.related?_of_mem_loaded loaded
  obtain ⟨-, relational, chosen⟩ := (Scope.mem_loaded_iff params).1 loaded
  obtain ⟨load, inPlan, rfl, loads⟩ := exists_loads settings action id valid relational
    related chosen
  have tied := loads.correlation
  rw [Request.mainKeys, (Scope.related?_eq_some_iff.1 related).1] at mem
  rw [Relation.correlation] at tied
  dsimp only at mem
  cases kind : relation.kind with
  | toOne =>
    rw [kind] at mem tied
    obtain rfl := List.mem_singleton.1 mem
    exact .foreignKey inPlan tied
  | toMany =>
    rw [kind] at mem
    exact absurd mem List.not_mem_nil
  | manyToMany =>
    rw [kind] at mem tied
    exact .primaryKey inPlan tied (List.mem_singleton.1 mem)

/-- All that is listed for the main resource may be taken. -/
theorem mayTake_of_mem_mainList (valid : scope.main.Valid) {name : String}
    (mem : name ∈ scope.mainList true params) :
    (ofParams scope settings params action id).MayTake scope name := by
  rcases Scope.mem_mainList mem with mem | ⟨key, loaded, mem⟩
  · exact mayTake_of_mem_chosen (Scope.mem_chosen_or_kept Scope.resource?_main mem)
  · exact mayTake_of_mem_mainKeys valid loaded mem

end Plan

/-- A related resource gives its declared columns and the key that ties it. -/
theorem EagerLoad.Loads.mayTake {scope : Scope} {params : RawParams} {relation : Relation}
    {target : Metadata} {load : EagerLoad} (loads : load.Loads scope true params relation target)
    {name : String} (mem : name ∈ load.columns.toList) : load.MayTake target name := by
  have found := Scope.resource?_of_related? loads.relational loads.related
  have tied := loads.correlation
  rw [Relation.correlation] at tied
  rw [loads.columns] at mem
  rcases Scope.mem_relatedList mem with mem | own
  · exact (Scope.mem_chosen_or_kept found mem).elim .selectable fun ⟨star, empty⟩ =>
      .star star empty
  · cases kind : relation.kind with
    | toOne =>
      rw [kind] at own tied
      exact .toOne tied own
    | toMany =>
      rw [kind] at own tied
      exact .toMany (own ▸ tied)
    | manyToMany =>
      rw [kind] at own tied
      have named := (Scope.valid_of_related? loads.related).isName_primaryKey
      refine .manyToMany tied own.1 ?_
      -- the key is no star, so it is declared
      exact (Scope.mem_chosen_or_kept found own.2).resolve_right fun ⟨star, _⟩ =>
        Ident.ne_of_isName named (by decide) star

/-! ## No list is empty -/

namespace Scope

variable {scope : Scope} {confined : Bool} {params : RawParams} {key : String}

/-- Something is listed for the main resource, if only the star. -/
theorem mainList_ne_nil : scope.mainList confined params ≠ [] := by
  rw [mainList]
  split
  case isTrue => exact List.cons_ne_nil _ _
  case isFalse =>
    have some : scope.chosen params scope.main.name ≠ [] := chosen_main_ne_nil params
    obtain ⟨name, rest, eq⟩ := List.exists_cons_of_ne_nil some
    rw [eq]
    exact List.ne_nil_of_mem (List.mem_eraseDups.2 List.mem_cons_self)

/-- A new name for the key drops no column. -/
theorem renamed_ne_nil {names : List String} (h : names ≠ []) (name other : String) :
    renamed name other names ≠ [] := by
  rw [renamed]
  split
  case isTrue =>
    refine List.ne_nil_of_mem (a := other) (List.mem_eraseDups.2 ?_)
    exact List.mem_append_right _ List.mem_cons_self
  case isFalse => exact h

/-- Something is listed for every relation that is loaded. -/
theorem relatedList_ne_nil {relation : Relation} {target : Metadata}
    (h : scope.chosen params key ≠ []) :
    scope.relatedList confined params key relation target ≠ [] := by
  obtain ⟨name, rest, eq⟩ := List.exists_cons_of_ne_nil h
  rw [relatedList, eq]
  split
  case isTrue => exact List.cons_ne_nil _ _
  case isFalse =>
    have first (others : List String) : (name :: others).eraseDups ≠ [] :=
      List.ne_nil_of_mem (List.mem_eraseDups.2 List.mem_cons_self)
    cases relation.kind with
    | toOne => exact first _
    | toMany => exact first _
    | manyToMany => exact renamed_ne_nil (first _) _ _

end Scope

theorem FieldSet.isEmpty_eq_false {fields : FieldSet} (h : fields.toList ≠ []) :
    fields.isEmpty = false := by
  rw [Bool.eq_false_iff, ne_eq, isEmpty_iff]
  exact h

/-! ## Conversions -/

/-- The plan of parameters takes only what it may take. -/
theorem Plan.confined_ofParams {scope : Scope} {settings : Settings} {params : RawParams}
    {action : Action} {id : Option String} (valid : scope.main.Valid)
    (strict : settings.strictFilters = true) :
    (ofParams scope settings params action id).Confined scope := by
  constructor
  case columns =>
    intro name mem
    rw [columns_ofParams valid, strict] at mem
    exact mayTake_of_mem_mainList valid mem
  case columns_isEmpty =>
    refine FieldSet.isEmpty_eq_false ?_
    rw [columns_ofParams valid]
    exact Scope.mainList_ne_nil
  case eager =>
    intro load mem
    obtain ⟨relation, target, loads⟩ := loads_of_mem_eager valid mem
    refine ⟨relation, target, loads.related, loads.correlation, fun name mem => ?_, ?_⟩
    · rw [strict] at loads
      exact loads.mayTake mem
    · refine FieldSet.isEmpty_eq_false ?_
      rw [loads.columns]
      exact Scope.relatedList_ne_nil loads.chosen
  case filters =>
    intro f mem
    have kept : f ∈ scope.kept settings.strictFilters params scope.main.name :=
      asks_of_mem_predicates mem
    rw [strict] at kept
    exact Scope.mem_selectable_of_mem_kept Scope.resource?_main kept
  case related =>
    intro key table correlation filters mem
    -- the key cannot be that of the main resource, so it leads to the target of its relation
    obtain ⟨relational, relation, target, related, -, -, rfl⟩ := asks_of_mem_predicates mem
    refine ⟨relation, target, related, fun f mem => ?_⟩
    rw [strict] at mem
    exact Scope.mem_selectable_of_mem_kept (Scope.resource?_of_related? relational related) mem
  case sort =>
    intro key mem
    exact List.contains_iff_mem.1 (canSort_of_mem_sort mem)

namespace Converter

/-- Where filters are confined, so is the plan of every conversion. -/
theorem confined_of_convert {converter : Converter} {resourceType : String} {params : RawParams}
    {action : Action} {id : Option String} {conversion : Conversion}
    (strict : converter.settings.strictFilters = true)
    (h : converter.convert resourceType params action id = .ok conversion) :
    ∃ scope, converter.scope resourceType = .ok scope ∧ conversion.plan.Confined scope := by
  obtain ⟨scope, found, -, rfl⟩ := convert_eq_ok_iff.1 h
  exact ⟨scope, found, Plan.confined_ofParams (valid_of_scope found) strict⟩

/-- A request that asks for undeclared fields in every place gets a plan without them. -/
theorem confined_of_convert_blog :
    Example.strict.settings.strictFilters = true ∧
      ∃ conversion, Example.strict.convert "Post" Example.everything .index none = .ok conversion ∧
        ∃ scope, Example.strict.scope "Post" = .ok scope ∧ conversion.plan.Confined scope := by
  have converted : Example.strict.convert "Post" Example.everything .index none = .ok _ := rfl
  exact ⟨rfl, _, converted, confined_of_convert rfl converted⟩

end Converter

end Retrieval
