import Retrieval.Proofs.Plan.Compile
import Retrieval.Proofs.Request.Flawless

/-!
# Conditions of plans

A filter that is lost widens the result, so the conditions of a plan are described exactly. On their
way from the parameters filters are dropped in three places: a text that spells no filter and, where
filters are confined, a filter on another field are dropped where filters are read; filters under a
key that leads nowhere are dropped where their targets are resolved; and the plan passes over keys
without filters and without a target. What is left are the filters of `Scope.kept`, under every key
in the order in which they were sent (`Request.read_filters_entries`). On the main resource each of
them is a condition of its own; on a relation they are one condition, that a single related row
meets them all (`Scope.keptConditions`).
-/

namespace Retrieval

namespace Scope

/-- The keys under which filters are kept with these filters, in the order of the keys. -/
def keptEntries (scope : Scope) (confined : Bool) (params : RawParams) :
    List (String × List Filter) :=
  params.filters.keys.filterMap fun key =>
    if scope.kept confined params key = [] then none
    else some (key, scope.kept confined params key)

/-- The conditions of the filters kept under a key: one for each of them on the main resource, and
one for all of them on a relation to a registered resource. -/
def keptConditions (scope : Scope) (confined : Bool) (params : RawParams) (key : String) :
    List Predicate :=
  let filters := scope.kept confined params key
  if key = scope.main.name then filters.map .filter
  else match scope.related? key with
    | none => []
    | some (relation, target) =>
      if filters = [] then []
      else [.related key target.table (relation.correlation key scope.main target) filters]

end Scope

/-- Whether a conversion keeps the filters that may be honoured, each of them once and at its
place. -/
structure Conversion.KeepsFilters (scope : Scope) (confined : Bool) (params : RawParams)
    (conversion : Conversion) : Prop where
  filters : conversion.request.filters.entries = scope.keptEntries confined params
  predicates : conversion.plan.predicates =
    params.filters.keys.flatMap (scope.keptConditions confined params)

namespace Request

variable {scope : Scope} {key : String} (params : RawParams)

/-! ## Filters of the request -/

/-- Filters are kept only under keys under which some were sent. -/
theorem mem_keys_of_kept (confined : Bool) (some : scope.kept confined params key ≠ []) :
    key ∈ params.filters.keys := by
  by_contra absent
  have none := spelledFilters_of_none (OrderedMap.find?_eq_none_iff.2 absent)
  apply some
  rw [Scope.kept]
  split
  · rfl
  · rw [none, List.filter_nil]

/-- Under a key of the request stand the filters that are kept under it, if there are any. -/
theorem read_filters_find? (settings : Settings) (action : Action) (key : String) :
    (Request.read scope settings params action).filters.find? key =
      if scope.kept settings.strictFilters params key = [] then none
      else some (scope.kept settings.strictFilters params key) := by
  rw [read_filters]
  cases leads : scope.resource? key with
  | none =>
    -- the key leads nowhere, so its filters are dropped and none are kept
    have relational : key ≠ scope.main.name := by
      rintro rfl
      rw [Scope.resource?_main] at leads
      exact Option.some_ne_none _ leads
    have dropped : (filterProblem? scope key).isSome := by
      rw [Option.isSome_iff_ne_none, ne_eq, filterProblem?_eq_none_iff relational]
      rintro ⟨metadata, found⟩
      rw [leads] at found
      exact Option.some_ne_none _ found.symm
    have none : scope.kept settings.strictFilters params key = [] := by rw [Scope.kept, leads]
    rw [if_pos ⟨decide_eq_false relational, dropped⟩, if_pos none]
  | some metadata =>
    rw [if_neg (resolves_of_resource? leads),
      sentFilters?_of_resource? params settings.strictFilters leads]

/-- The filters of the request are those that are kept, under their keys in order. -/
theorem read_filters_entries (settings : Settings) (action : Action) :
    (Request.read scope settings params action).filters.entries =
      scope.keptEntries settings.strictFilters params := by
  refine OrderedMap.eq_of_mem_iff_by (·.1) (OrderedMap.sorted _) ?_ fun entry => ?_
  · refine params.filters.keys_sorted.filterMap _ ?_
    intro a b lt entry eq other eq'
    rw [Option.ite_none_left_eq_some, Option.some.injEq] at eq eq'
    obtain ⟨-, rfl⟩ := eq
    obtain ⟨-, rfl⟩ := eq'
    exact lt
  · obtain ⟨key, filters⟩ := entry
    rw [OrderedMap.mem_entries_iff, read_filters_find?, Scope.keptEntries, List.mem_filterMap]
    simp only [Option.ite_none_left_eq_some, Option.some.injEq, Prod.mk.injEq]
    constructor
    · rintro ⟨some, eq⟩
      exact ⟨key, mem_keys_of_kept params _ some, some, rfl, eq⟩
    · rintro ⟨_, -, some, rfl, eq⟩
      exact ⟨some, eq⟩

end Request

/-! ## Conditions -/

namespace Plan

variable {scope : Scope} {params : RawParams}

/-- The filters kept under a key have the conditions that they stand for. -/
theorem conditions_kept (confined : Bool) {key : String}
    (some : scope.kept confined params key ≠ []) :
    conditions scope key (scope.kept confined params key) =
      scope.keptConditions confined params key := by
  rw [conditions, if_neg (by simpa using some), Scope.keptConditions, Scope.isMain]
  by_cases main : key = scope.main.name
  · rw [if_pos (decide_eq_true main), if_pos main]
  · rw [if_neg (by simpa using main), if_neg main]
    cases scope.related? key with
    | none => rfl
    | some pair => exact (if_neg some).symm

/-- Without a filter that is kept there is no condition. -/
theorem keptConditions_of_nil {confined : Bool} {key : String}
    (none : scope.kept confined params key = []) :
    scope.keptConditions confined params key = [] := by
  rw [Scope.keptConditions, none]
  split
  · rfl
  · split
    · rfl
    · exact if_pos rfl

/-- The conditions of a list are those of the filters that are kept, key by key. -/
theorem predicates_ofParams (settings : Settings) (id : Option String) :
    (ofParams scope settings params .index id).predicates =
      params.filters.keys.flatMap (scope.keptConditions settings.strictFilters params) := by
  have list : (ofParams scope settings params .index id).predicates =
      (Request.read scope settings params .index).filters.entries.flatMap fun entry =>
        conditions scope entry.1 entry.2 := by
    rw [ofParams, ofRequest, Request.read_action]
    dsimp only
    rw [if_pos rfl]
  rw [list, Request.read_filters_entries, Scope.keptEntries, List.filterMap_eq_flatMap_toList,
    List.flatMap_assoc]
  refine List.flatMap_congr fun key _ => ?_
  by_cases none : scope.kept settings.strictFilters params key = []
  · rw [if_pos none, keptConditions_of_nil none]
    rfl
  · rw [if_neg none, ← conditions_kept settings.strictFilters none]
    exact List.flatMap_singleton ..

end Plan

/-! ## Conversions -/

namespace Converter

/-- No filter is lost, repeated or misplaced: the filters of a list and its conditions are exactly
those that are kept. -/
theorem keepsFilters_of_convert {converter : Converter} {resourceType : String}
    {params : RawParams} {id : Option String} {conversion : Conversion}
    (h : converter.convert resourceType params .index id = .ok conversion) :
    ∃ scope, converter.scope resourceType = .ok scope ∧
      conversion.KeepsFilters scope converter.settings.strictFilters params := by
  obtain ⟨scope, found, -, rfl⟩ := convert_eq_ok_iff.1 h
  refine ⟨scope, found, ?_, ?_⟩
  · exact Request.read_filters_entries params converter.settings .index
  · exact Plan.predicates_ofParams converter.settings id

/-- Filters that are sent in the middle of others: one on a field that may not be selected, texts
that are no filters, and a key that names no relation. -/
theorem keepsFilters_of_convert_blog :
    let params := { RawParams.empty with
      filters := ⟨[("likes", .one "id = 1"), ("post", .many ["title%3Da", "secret = 1", "id > 3",
        "title=a"]), ("tags", .many ["label like %25l%25", "", "id not null"])], by decide⟩ }
    ∃ conversion, Example.strict.convert "Post" params .index none = .ok conversion ∧
      conversion.plan.predicates = [.filter ⟨"title", .eq, some "a"⟩, .filter ⟨"id", .gt, some "3"⟩,
        .filter ⟨"title", .eq, some "a"⟩,
        .related "tags" "tags" (.manyToMany "post_tag" "post_id" "tag_id" "id" "id")
          [⟨"label", .like, some "%l%"⟩, ⟨"id", .notNull, none⟩]] ∧
      ∃ scope, Example.strict.scope "Post" = .ok scope ∧
        conversion.KeepsFilters scope true params := by
  intro params
  have converted : Example.strict.convert "Post" params .index none = .ok _ := rfl
  exact ⟨_, converted, by decide +kernel, keepsFilters_of_convert converted⟩

end Converter

end Retrieval
