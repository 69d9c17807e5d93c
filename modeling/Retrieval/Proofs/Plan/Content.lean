import Retrieval.Proofs.Plan.Conditions
import Retrieval.Proofs.Plan.Eager

/-!
# The content of a plan

The plan of some parameters as one expression in them (`Scope.plan`). The passes write into one
request and the plan is made of what they leave; `Plan.ofParams_eq` says what that is, part by part,
without a pass. Two plans can then be compared by comparing what their parameters say under every
key, and two conversions by comparing them in one scope (`Converter.agree_convert`).
-/

namespace Retrieval

attribute [ext] Plan

namespace Scope

/-- The rows loaded under a relation, if it leads to a registered resource. -/
def load? (scope : Scope) (confined : Bool) (params : RawParams) (key : String) :
    Option EagerLoad :=
  (scope.related? key).map fun (relation, target) =>
    { relation := key
      table := target.table
      primaryKey := target.primaryKey
      columns := .ofList (scope.relatedList confined params key relation target)
      correlation := relation.correlation key scope.main target
      limit := (params.lastLimit key).bind Text.positive? }

/-- The plan of some parameters. -/
def plan (scope : Scope) (settings : Settings) (params : RawParams) (action : Action)
    (id : Option String) : Plan :=
  { resourceType := scope.resourceType
    table := scope.main.table
    label := scope.main.name
    columns := .ofList (scope.mainList settings.strictFilters params)
    eager := (scope.loaded params).filterMap (scope.load? settings.strictFilters params)
    predicates := if action = .index then
        params.filters.keys.flatMap (scope.keptConditions settings.strictFilters params)
      else []
    sort := if action = .index then
        ((params.sorting.map SortKey.ofText).getD []).filter (scope.main.canSort ·.field)
      else []
    lookup := if action = .index then none else id.map (Plan.lookupOf scope.main)
    window := if action = .index then some (Request.windowOf settings params) else none }

/-- What is loaded under a key is the relation of that key. -/
theorem relation_of_load? {scope : Scope} {confined : Bool} {params : RawParams} {key : String}
    {load : EagerLoad} (loaded : scope.load? confined params key = some load) :
    load.relation = key := by
  obtain ⟨⟨relation, target⟩, -, rfl⟩ := Option.map_eq_some_iff.1 loaded
  rfl

end Scope

/-- A set of fields is the set of its own list. -/
theorem FieldSet.ofList_toList (fields : FieldSet) : ofList fields.toList = fields := by
  ext1
  rw [toList_ofList, eraseDups_of_nodup fields.nodup]

/-! ## Parts of the plan -/

/-- A relation to load is the one that its declaration and the parameters describe. -/
theorem EagerLoad.Loads.load?_eq {scope : Scope} {confined : Bool} {params : RawParams}
    {relation : Relation} {target : Metadata} {load : EagerLoad}
    (loads : load.Loads scope confined params relation target)
    (limit : load.limit = (params.lastLimit load.relation).bind Text.positive?) :
    scope.load? confined params load.relation = some load := by
  have columns : load.columns =
      .ofList (scope.relatedList confined params load.relation relation target) := by
    rw [← loads.columns, FieldSet.ofList_toList]
  rw [Scope.load?, loads.related, Option.map_some]
  dsimp only
  rw [← loads.table, ← loads.primaryKey, ← columns, ← loads.correlation, ← limit]

namespace Plan

variable {scope : Scope} {settings : Settings} {params : RawParams} {action : Action}
  {id : Option String}

/-- The relations to load are those under which something is chosen. -/
theorem eager_ofParams (valid : scope.main.Valid) :
    (ofParams scope settings params action id).eager =
      (scope.loaded params).filterMap (scope.load? settings.strictFilters params) := by
  have described : ∀ load ∈ (ofParams scope settings params action id).eager,
      load.relation ∈ scope.loaded params ∧
        scope.load? settings.strictFilters params load.relation = some load := by
    intro load mem
    obtain ⟨relation, target, loads⟩ := loads_of_mem_eager valid mem
    exact ⟨loads.mem_loaded, loads.load?_eq (lastLimit_of_mem_eager valid mem)⟩
  -- both lists are in the order of the relations, so it is enough that they have the same members
  refine OrderedMap.eq_of_mem_iff_by (·.relation) eager_ordered ?_ fun load => ?_
  · have sorted : (scope.loaded params).Pairwise (· < ·) := (OrderedMap.keys_sorted _).filter _
    refine sorted.filterMap _ ?_
    intro key other lt load loaded load' loaded'
    rw [Scope.relation_of_load? loaded, Scope.relation_of_load? loaded']
    exact lt
  · rw [List.mem_filterMap]
    constructor
    · intro mem
      exact ⟨load.relation, described load mem⟩
    · rintro ⟨key, mem, loaded⟩
      obtain ⟨-, relational, chosen⟩ := (Scope.mem_loaded_iff params).1 mem
      obtain ⟨⟨relation, target⟩, related, -⟩ := Option.map_eq_some_iff.1 loaded
      obtain ⟨load', mem', rfl, -⟩ :=
        exists_loads settings action id valid relational related chosen
      rw [(described load' mem').2, Option.some.injEq] at loaded
      exact loaded ▸ mem'

/-- The plan that is compiled from the request is the plan of the parameters. -/
theorem ofParams_eq (valid : scope.main.Valid) :
    ofParams scope settings params action id = scope.plan settings params action id := by
  have kind := Request.read_action scope settings params action
  apply Plan.ext
  case resourceType | table | label => rfl
  case columns =>
    have names : (ofParams scope settings params action id).columns.toList = _ :=
      columns_ofParams valid
    show _ = FieldSet.ofList (scope.mainList settings.strictFilters params)
    rw [← names, FieldSet.ofList_toList]
  case eager => exact eager_ofParams valid
  case lookup =>
    rw [ofParams, ofRequest, kind]
    rfl
  -- a list has what was sent for it, and a single entity has none of it
  case predicates =>
    cases action with
    | index => exact predicates_ofParams settings id
    | entity => exact if_neg (by rw [kind]; decide)
  case sort =>
    cases action with
    | index => exact (if_pos kind).trans (Request.read_sorting scope settings params .index)
    | entity => exact if_neg (by rw [kind]; decide)
  case window =>
    cases action with
    | index => exact (if_pos kind).trans (Request.read_window scope settings params)
    | entity => exact if_neg (by rw [kind]; decide)

end Plan

/-! ## Conversions -/

/-- The conversion of some parameters in a scope. -/
def Conversion.ofParams (scope : Scope) (settings : Settings) (params : RawParams) (action : Action)
    (id : Option String) : Conversion :=
  ⟨Request.read scope settings params action, scope.plan settings params action id⟩

/-- Two conversions of one resource type fail alike, or are made in the same scope. Whether they
fail depends neither on the parameters nor on the settings. -/
theorem Converter.agree_convert {converter other : Converter} {resourceType : String}
    {params params' : RawParams} {action : Action} {id : Option String}
    {Related : Conversion → Conversion → Prop} (registry : other.registry = converter.registry)
    (related : ∀ scope, converter.scope resourceType = .ok scope →
      Related (.ofParams scope converter.settings params action id)
        (.ofParams scope other.settings params' action id)) :
    Except.Agree Related (converter.convert resourceType params action id)
      (other.convert resourceType params' action id) := by
  have same : other.scope resourceType = converter.scope resourceType := by
    rw [scope, scope, registry]
  rw [convert, convert, same]
  cases found : converter.scope resourceType with
  | error failure => exact .error failure
  | ok scope =>
    by_cases missing : action = .entity ∧ id = none
    · simp only [if_pos missing]
      exact .error _
    · simp only [if_neg missing]
      have parts := related scope found
      rw [Conversion.ofParams, Conversion.ofParams, ← Plan.ofParams_eq (valid_of_scope found),
        ← Plan.ofParams_eq (valid_of_scope found)] at parts
      exact .ok parts

end Retrieval
