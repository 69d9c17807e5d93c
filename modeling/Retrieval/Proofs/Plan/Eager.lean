import Retrieval.Proofs.Plan.Compile
import Retrieval.Proofs.Request.Limiting

/-!
# Relations that are loaded

Which relations the plan of a conversion loads. Three look-ups have to agree for a key: the
selection finds a resource by the convention or the declaration, the joining asks for a declared
relation, and the plan wants both the relation and its resource. They agree on the relations to
registered resources for which a name was sent that selects something (`Conversion.LoadsAsked`), and
the limits that are kept are limits of these.
-/

namespace Retrieval

/-- Whether some name of a list selects something on a resource. -/
def Metadata.SelectsSome (metadata : Metadata) (names : List String) : Prop :=
  ∃ name ∈ names, name = wildcard ∨ metadata.canSelect name

/-- Whether a conversion loads the relations that were asked for, and no others. -/
structure Conversion.LoadsAsked (scope : Scope) (params : RawParams) (conversion : Conversion) :
    Prop where
  /-- A relation is loaded if it is declared, leads to a registered resource and has a name that
  selects something there. -/
  loaded_iff : ∀ key, (∃ load ∈ conversion.plan.eager, load.relation = key) ↔
    key ≠ scope.main.name ∧ ∃ relation target, scope.related? key = some (relation, target) ∧
      target.SelectsSome (params.commaNames key)
  ordered : conversion.plan.eager.Pairwise (·.relation < ·.relation)
  described : ∀ load ∈ conversion.plan.eager, ∃ relation target,
    scope.related? load.relation = some (relation, target) ∧ load.table = target.table ∧
      load.primaryKey = target.primaryKey ∧
      conversion.request.fields.find? load.relation = some load.columns
  /-- Rows are limited by the last limit that was sent, if it is a count. -/
  limited : ∀ load ∈ conversion.plan.eager, ∀ n, load.limit = some n ↔
    ∃ text, params.lastLimit load.relation = some text ∧ Text.WritesCount text n
  limits : ∀ key ∈ conversion.request.limits.keys,
    ∃ load ∈ conversion.plan.eager, load.relation = key

/-- Something is chosen from names just when one of them selects something. -/
theorem Metadata.chosen_ne_nil_iff {metadata : Metadata} {names : List String} :
    metadata.chosen names ≠ [] ↔ metadata.SelectsSome names := by
  unfold chosen SelectsSome
  split
  case isTrue star => exact iff_of_true metadata.allowed_ne_nil ⟨wildcard, star, .inl rfl⟩
  case isFalse plain =>
    rw [ne_eq, List.filter_eq_nil_iff]
    constructor
    · intro some
      push Not at some
      obtain ⟨name, mem, selectable⟩ := some
      exact ⟨name, mem, .inr selectable⟩
    · rintro ⟨name, mem, rfl | selectable⟩ none
      · exact plain mem
      · exact none name mem selectable

/-- Something is chosen under a relation when some name that was sent for it selects something. -/
theorem Scope.chosen_related_ne_nil_iff {scope : Scope} {params : RawParams} {key : String}
    {relation : Relation} {target : Metadata} (relational : key ≠ scope.main.name)
    (related : scope.related? key = some (relation, target)) :
    scope.chosen params key ≠ [] ↔ target.SelectsSome (params.commaNames key) := by
  rw [chosen_of_resource? params (resource?_of_related? relational related),
    if_neg fun main => relational main.1]
  exact Metadata.chosen_ne_nil_iff

namespace Plan

variable {scope : Scope} {settings : Settings} {params : RawParams} {action : Action}
  {id : Option String}

/-- What is loaded has the name, the columns and the limit that the request has under the key. -/
theorem relation_of_eagerLoad? {request : Request} {key : String} {columns : FieldSet}
    {load : EagerLoad} (loaded : eagerLoad? scope request key columns = some load) :
    load.relation = key ∧ load.columns = columns ∧ load.limit = request.limits.find? key := by
  simp only [eagerLoad?, Option.bind_eq_bind, Option.bind_eq_some_iff, Option.pure_def,
    Option.some.injEq] at loaded
  obtain ⟨⟨relation, target⟩, -, rfl⟩ := loaded
  exact ⟨rfl, rfl, rfl⟩

/-- A relation to load has the fields of the request for columns, and its limit. -/
theorem find?_of_mem_eager {load : EagerLoad}
    (mem : load ∈ (ofParams scope settings params action id).eager) :
    (Request.read scope settings params action).fields.find? load.relation = some load.columns ∧
      load.limit = (Request.read scope settings params action).limits.find? load.relation := by
  obtain ⟨⟨key, columns⟩, inRequest, loaded⟩ := List.mem_filterMap.1 mem
  obtain ⟨found, -⟩ := mem_relations_read_iff.1 inRequest
  obtain ⟨rfl, rfl, limit⟩ := relation_of_eagerLoad? loaded
  exact ⟨found, limit⟩

/-- Relations are loaded in the order of their names, each once. -/
theorem eager_ordered :
    (ofParams scope settings params action id).eager.Pairwise (·.relation < ·.relation) := by
  have sorted : (Request.read scope settings params action).relations.Pairwise (·.1 < ·.1) :=
    (Request.read scope settings params action).fields.sorted.filter _
  refine sorted.filterMap _ ?_
  intro entry other lt load loaded load' loaded'
  rw [(relation_of_eagerLoad? loaded).1, (relation_of_eagerLoad? loaded').1]
  exact lt

/-- A relation is loaded if it leads to a resource and a name selects something there. -/
theorem mem_eager_iff (valid : scope.main.Valid) (key : String) :
    (∃ load ∈ (ofParams scope settings params action id).eager, load.relation = key) ↔
      key ≠ scope.main.name ∧ ∃ relation target, scope.related? key = some (relation, target) ∧
        target.SelectsSome (params.commaNames key) := by
  constructor
  · rintro ⟨load, mem, rfl⟩
    obtain ⟨relation, target, loads⟩ := loads_of_mem_eager valid mem
    have some := (Scope.chosen_related_ne_nil_iff loads.relational loads.related).1 loads.chosen
    exact ⟨loads.relational, relation, target, loads.related, some⟩
  · rintro ⟨relational, relation, target, related, some⟩
    have chosen := (Scope.chosen_related_ne_nil_iff relational related).2 some
    obtain ⟨load, mem, name, -⟩ := exists_loads settings action id valid relational related chosen
    exact ⟨load, mem, name⟩

/-- The limit of a relation to load is read from the last one that was sent for it. -/
theorem lastLimit_of_mem_eager (valid : scope.main.Valid) {load : EagerLoad}
    (mem : load ∈ (ofParams scope settings params action id).eager) :
    load.limit = (params.lastLimit load.relation).bind Text.positive? := by
  obtain ⟨relation, target, loads⟩ := loads_of_mem_eager valid mem
  obtain ⟨found, limit⟩ := find?_of_mem_eager mem
  have selected : (Request.read scope settings params action).fields.contains load.relation := by
    rw [OrderedMap.contains, found, Option.isSome_some]
  rw [limit, Request.read_limits, if_pos ⟨loads.relational, selected⟩]

/-- The limit of a relation to load is the last one that was sent for it, if it is a count. -/
theorem limit_of_mem_eager (valid : scope.main.Valid) {load : EagerLoad}
    (mem : load ∈ (ofParams scope settings params action id).eager) (n : UInt64) :
    load.limit = some n ↔
      ∃ text, params.lastLimit load.relation = some text ∧ Text.WritesCount text n := by
  rw [lastLimit_of_mem_eager valid mem, Option.bind_eq_some_iff]
  simp only [Text.positive?_eq_some_iff]

/-- A limit is kept only for a relation that is loaded. -/
theorem exists_mem_eager_of_limit (valid : scope.main.Valid) {key : String}
    (limited : key ∈ (Request.read scope settings params action).limits.keys) :
    ∃ load ∈ (ofParams scope settings params action id).eager, load.relation = key := by
  obtain ⟨n, found⟩ := OrderedMap.mem_keys_iff.1 limited
  rw [Request.read_limits] at found
  split at found
  case isFalse => exact absurd found.symm (Option.some_ne_none n)
  case isTrue selected =>
    obtain ⟨relational, selected⟩ := selected
    obtain ⟨columns, selected⟩ := Option.isSome_iff_exists.1 selected
    -- what is selected in the end is a relation to a resource under which something is chosen
    have list := Request.read_fieldList? params settings action valid key
    rw [selected, Option.map_some, Scope.fieldList?, if_neg relational] at list
    obtain ⟨⟨relation, target⟩, related, list⟩ := Option.bind_eq_some_iff.1 list.symm
    dsimp only at list
    split at list
    case isTrue => exact absurd list.symm (Option.some_ne_none _)
    case isFalse chosen =>
      obtain ⟨load, mem, name, -⟩ := exists_loads settings action id valid relational related chosen
      exact ⟨load, mem, name⟩

end Plan

/-! ## Conversions -/

namespace Converter

/-- A conversion loads exactly what was validly asked for. -/
theorem loadsAsked_of_convert {converter : Converter} {resourceType : String} {params : RawParams}
    {action : Action} {id : Option String} {conversion : Conversion}
    (h : converter.convert resourceType params action id = .ok conversion) :
    ∃ scope, converter.scope resourceType = .ok scope ∧ conversion.LoadsAsked scope params := by
  obtain ⟨scope, found, -, rfl⟩ := convert_eq_ok_iff.1 h
  have valid := valid_of_scope found
  refine ⟨scope, found, Plan.mem_eager_iff valid, Plan.eager_ordered, fun load mem => ?_,
    fun load mem n => Plan.limit_of_mem_eager valid mem n,
    fun key mem => Plan.exists_mem_eager_of_limit valid mem⟩
  obtain ⟨relation, target, loads⟩ := Plan.loads_of_mem_eager valid mem
  obtain ⟨columns, -⟩ := Plan.find?_of_mem_eager mem
  exact ⟨relation, target, loads.related, loads.table, loads.primaryKey, columns⟩

/-- A limit of a relation under which nothing is selected is not kept, and neither is one that is no
count. -/
theorem loadsAsked_of_convert_blog :
    let params := { Example.everything with
      limit := ⟨[("author", .one "0"), ("comments", .many ["x", " +007"]), ("likes", .one "3")],
        by decide⟩ }
    ∃ conversion, Example.strict.convert "Post" params .index none = .ok conversion ∧
      conversion.plan.eager.map (fun load => (load.relation, load.limit)) =
        [("author", none), ("comments", some 7), ("tags", none)] ∧
      ∃ scope, Example.strict.scope "Post" = .ok scope ∧ conversion.LoadsAsked scope params := by
  intro params
  have converted : Example.strict.convert "Post" params .index none = .ok _ := rfl
  exact ⟨_, converted, by decide +kernel, loadsAsked_of_convert converted⟩

end Converter

end Retrieval
