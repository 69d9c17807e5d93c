import Retrieval.Proofs.Plan.Columns

/-!
# Confined filters

Where filters are confined to selectable fields, a filter on another field is dropped as soon as it
is read. All later passes then run without it: it adds no column, makes no primary key qualified and
gives no condition. So the conversion that is confined is compared with the one that is not, part by
part (`Conversion.Narrows`). What is lost are the conditions of the dropped filters and the columns
that they bring, and nothing is lost where every filter is on a selectable field.
-/

namespace Retrieval

/-- The converter with filters confined or not. -/
def Converter.confining (converter : Converter) (confined : Bool) : Converter :=
  { converter with settings := { converter.settings with strictFilters := confined } }

namespace Scope

/-- Whether a filter under a key is on a field that may be selected on the resource that the key
names, if it names one. -/
def allows (scope : Scope) (key : String) (filter : Filter) : Bool :=
  (scope.metadata? key).all (·.canSelect filter.field)

/-- A condition without the filters that are not allowed, unless none are left. -/
def confine? (scope : Scope) : Predicate → Option Predicate
  | .filter filter =>
    if scope.allows scope.main.name filter then some (.filter filter) else none
  | .related key table correlation filters =>
    if filters.filter (scope.allows key) = [] then none
    else some (.related key table correlation (filters.filter (scope.allows key)))

end Scope

/-- Whether a conversion is another one with its filters confined. -/
structure Conversion.Narrows (scope : Scope) (params : RawParams) (strict permissive : Conversion) :
    Prop where
  predicates : strict.plan.predicates = permissive.plan.predicates.filterMap scope.confine?
  /-- All the rest of the plan is the same, but that columns may be missing. -/
  alike : strict.plan.Alike (fun _ columns others => columns.toList ⊆ others.toList) permissive.plan
  limits : strict.request.limits = permissive.request.limits
  /-- Nothing changes if all the filters that are sent are allowed, whether they are kept or not. -/
  eq_of_allowed : (∀ key, ∀ filter ∈ params.spelledFilters key, scope.allows key filter) →
    strict = permissive

/-! ## Filters that are kept -/

namespace Scope

variable {scope : Scope} {params : RawParams} {key : String}

/-- The confined filters are those of all the filters that are allowed. -/
theorem kept_true : scope.kept true params key =
    (scope.kept false params key).filter (scope.allows key) := by
  cases leads : scope.resource? key with
  | none => rw [kept, kept, leads, List.filter_nil]
  | some metadata =>
    rw [kept_of_resource? params true leads, kept_of_resource? params false leads,
      List.filter_filter]
    refine List.filter_congr fun filter _ => ?_
    rw [allows, metadata?_of_resource? leads, Option.all_some]
    simp

/-- The conditions under one key lose what is not allowed. -/
theorem keptConditions_true : scope.keptConditions true params key =
    (scope.keptConditions false params key).filterMap scope.confine? := by
  rw [keptConditions, keptConditions, kept_true]
  split
  case isTrue main =>
    -- on the main resource a condition is one filter
    subst main
    rw [List.filterMap_map, ← List.filterMap_eq_map, ← List.filterMap_eq_filter,
      List.filterMap_filterMap]
    refine List.filterMap_congr fun filter _ => ?_
    by_cases allowed : scope.allows scope.main.name filter <;> simp [confine?, allowed]
  case isFalse =>
    cases scope.related? key with
    | none => rfl
    | some pair =>
      by_cases none : scope.kept false params key = []
      · simp [none]
      · by_cases left : (scope.kept false params key).filter (scope.allows key) = []
        · simp [none, left, confine?]
        · simp [none, left, confine?]

/-- Confining takes filters out of conditions, and conditions that are left without any. -/
theorem predicates_true (names : List String) :
    names.flatMap (scope.keptConditions true params) =
      (names.flatMap (scope.keptConditions false params)).filterMap scope.confine? := by
  rw [List.filterMap_flatMap]
  refine List.flatMap_congr fun key _ => ?_
  exact keptConditions_true

/-- Filters that are confined bring no columns that the others lack. -/
theorem not_brings_kept (name : String) :
    ¬scope.Brings key (scope.keptFields true params key) (scope.keptFields false params key)
      name := by
  rintro ⟨field, mem, absent, -⟩
  obtain ⟨filter, kept, rfl⟩ := List.mem_map.1 mem
  rw [kept_true] at kept
  exact absent (List.mem_map_of_mem (List.mem_filter.1 kept).1)

/-- Confining takes no column to the main resource. -/
theorem mainList_subset : scope.mainList true params ⊆ scope.mainList false params := by
  intro name mem
  exact (mem_mainList_or_brings mem).resolve_right (not_brings_kept name)

/-- Confining takes no column to a relation. -/
theorem relatedList_subset {relation : Relation} {target : Metadata}
    (related : scope.related? key = some (relation, target)) :
    scope.relatedList true params key relation target ⊆
      scope.relatedList false params key relation target := by
  intro name mem
  exact (mem_relatedList_or_brings related mem).resolve_right (not_brings_kept name)

end Scope

/-! ## The request -/

namespace Request

variable {scope : Scope} {params : RawParams} {action : Action} {settings : Settings}

/-- Whether something is selected under a key does not depend on filters. -/
theorem isSome_fieldList? (confined confined' : Bool) (key : String) :
    (scope.fieldList? confined params key).isSome =
      (scope.fieldList? confined' params key).isSome := by
  rw [Scope.fieldList?, Scope.fieldList?]
  split
  case isTrue => rfl
  case isFalse =>
    cases scope.related? key with
    | none => rfl
    | some pair =>
      dsimp only [Option.bind_some]
      split <;> rfl

/-- A key has fields just when fields are listed for it. -/
theorem contains_fields (settings : Settings) (action : Action) (valid : scope.main.Valid)
    (key : String) : (Request.read scope settings params action).fields.contains key =
      (scope.fieldList? settings.strictFilters params key).isSome := by
  rw [← read_fieldList? params settings action valid, Option.isSome_map, OrderedMap.contains]

/-- Limits do not depend on whether filters are confined. -/
theorem limits_confined (valid : scope.main.Valid) (confined confined' : Bool) :
    (Request.read scope { settings with strictFilters := confined } params action).limits =
      (Request.read scope { settings with strictFilters := confined' } params action).limits := by
  apply OrderedMap.ext_find?
  intro key
  rw [read_limits, read_limits, contains_fields _ action valid, contains_fields _ action valid,
    isSome_fieldList?]

/-- Confined filters are refused unless they are allowed. -/
theorem refuses_true (key : String) (filter : Filter) :
    refuses scope true key filter = !scope.allows key filter := by
  rw [refuses, Scope.allows]
  cases scope.metadata? key with
  | none => rfl
  | some metadata => rfl

/-- Where every filter is allowed, none is refused. -/
theorem filterBy_of_allowed {key : String} {value : RawValue}
    (allowed : ∀ filter ∈ filtersOf value, scope.allows key filter) (request : Request) :
    request.filterBy scope true key value = request.filterBy scope false key value := by
  have same : ∀ filter ∈ filtersOf value,
      refuses scope true key filter = refuses scope false key filter := by
    intro filter mem
    rw [refuses_true, allowed filter mem]
    rfl
  have kept : ∀ filter ∈ filtersOf value,
      (!refuses scope true key filter) = !refuses scope false key filter := by
    intro filter mem
    rw [same filter mem]
  rw [filterBy, filterBy, List.partition_eq_filter_filter, List.partition_eq_filter_filter]
  dsimp only
  rw [List.filter_congr same]
  exact congrArg (putFilters _ key) (List.filter_congr kept)

/-- Where all filters are allowed, confining changes nothing of the request. -/
theorem read_of_allowed
    (allowed : ∀ key, ∀ filter ∈ params.spelledFilters key, scope.allows key filter) :
    Request.read scope { settings with strictFilters := true } params action =
      Request.read scope { settings with strictFilters := false } params action := by
  have filtered (request : Request) : request.readFilters scope params.filters true =
      request.readFilters scope params.filters false := by
    refine List.foldl_ext _ _ _ fun request entry mem => ?_
    have sent := (params.filters.mem_entries_iff entry.1 entry.2).1 mem
    apply filterBy_of_allowed
    rw [filtersOf_of_find? sent]
    exact allowed entry.1
  simp only [Request.read, filtered]
  rfl

end Request

/-! ## Conversions -/

namespace Conversion

variable {scope : Scope} {params : RawParams} {action : Action} {id : Option String}

/-- Where all filters are allowed, confining changes nothing of the plan. -/
theorem ofParams_of_allowed (valid : scope.main.Valid) (settings : Settings)
    (allowed : ∀ key, ∀ filter ∈ params.spelledFilters key, scope.allows key filter) :
    ofParams scope { settings with strictFilters := true } params action id =
      ofParams scope { settings with strictFilters := false } params action id := by
  rw [ofParams, ofParams, ← Plan.ofParams_eq valid, ← Plan.ofParams_eq valid, Plan.ofParams,
    Plan.ofParams, Request.read_of_allowed allowed]

/-- Confining narrows the plan of parameters. -/
theorem narrows_ofParams (valid : scope.main.Valid) (settings : Settings) :
    (ofParams scope { settings with strictFilters := true } params action id).Narrows scope params
      (ofParams scope { settings with strictFilters := false } params action id) := by
  constructor
  case predicates =>
    cases action with
    | index => exact Scope.predicates_true params.filters.keys
    | entity => rfl
  case alike =>
    apply Scope.plan_alike
    · intro name mem
      rw [FieldSet.mem_toList_ofList] at mem ⊢
      exact Scope.mainList_subset mem
    · intro key _ relation target related name mem
      rw [FieldSet.mem_toList_ofList] at mem ⊢
      exact Scope.relatedList_subset related mem
  case limits => exact Request.limits_confined valid true false
  case eq_of_allowed => exact ofParams_of_allowed valid settings

end Conversion

namespace Converter

/-- Confining the filters only removes filters: a conversion fails alike with and without it, and
it loses only the conditions on fields that may not be selected and the columns that they bring. -/
theorem narrows_of_confining (converter : Converter) (resourceType : String) (params : RawParams)
    (action : Action) (id : Option String) :
    Except.Agree (fun strict permissive => ∃ scope, converter.scope resourceType = .ok scope ∧
        strict.Narrows scope params permissive)
      ((converter.confining true).convert resourceType params action id)
      ((converter.confining false).convert resourceType params action id) := by
  refine agree_convert rfl fun scope found => ?_
  exact ⟨scope, found, Conversion.narrows_ofParams (valid_of_scope found) converter.settings⟩

/-- Two filters are on fields that may not be selected. The one on posts takes its column along, the
one on comments leaves no condition on them. -/
theorem narrows_of_confining_blog :
    let params := { Example.everything with
      filters := ⟨[("comments", .one "spam = 1"), ("post", .many ["secret = 1", "id > 3"]),
        ("tags", .one "label = lean")], by decide⟩ }
    let tagged : Predicate := .related "tags" "tags"
      (.manyToMany "post_tag" "post_id" "tag_id" "id" "id") [⟨"label", .eq, some "lean"⟩]
    ∃ strict permissive,
      (Example.strict.confining true).convert "Post" params .index none = .ok strict ∧
      (Example.strict.confining false).convert "Post" params .index none = .ok permissive ∧
      strict.plan.columns.toList = ["title", "id", "author_id"] ∧
      permissive.plan.columns.toList = ["title", "secret", "id", "author_id"] ∧
      strict.plan.predicates = [.filter ⟨"id", .gt, some "3"⟩, tagged] ∧
      permissive.plan.predicates = [.related "comments" "comments" (.toMany "post_id" "id")
        [⟨"spam", .eq, some "1"⟩], .filter ⟨"secret", .eq, some "1"⟩, .filter ⟨"id", .gt, some "3"⟩,
        tagged] ∧
      ∃ scope, Example.strict.scope "Post" = .ok scope ∧
        strict.Narrows scope params permissive := by
  intro params tagged
  have agree := narrows_of_confining Example.strict "Post" params .index none
  have converted : (Example.strict.confining true).convert "Post" params .index none = .ok _ := rfl
  have converted' : (Example.strict.confining false).convert "Post" params .index none = .ok _ :=
    rfl
  rw [converted, converted'] at agree
  refine ⟨_, _, converted, converted', by decide +kernel, by decide +kernel, by decide +kernel,
    by decide +kernel, ?_⟩
  cases agree with
  | ok narrows => exact narrows

end Converter

end Retrieval
