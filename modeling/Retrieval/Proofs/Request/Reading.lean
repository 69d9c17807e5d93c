import Retrieval.Proofs.Request.Passes

/-!
# Parameters read under one key

What the parameters ask for under a key, said from the texts that were sent and the description of
the resource that the key leads to: the names chosen, the filters kept, and the relations that are
loaded. The passes leave exactly that: `selected?_eq` for the fields and `sentFilters?_eq` for the
filters.
-/

namespace Retrieval

namespace RawParams

/-- The names between the commas of the texts sent for fields under a key, in order. -/
def commaNames (params : RawParams) (key : String) : List String :=
  (((params.fields.find? key).map (·.texts)).getD []).flatMap fun text =>
    (Text.split ',' text.toList).map String.ofList

/-- The names sent for fields under a key, in order, without empty ones. -/
def sentNames (params : RawParams) (key : String) : List String :=
  (params.commaNames key).filter (· ≠ "")

/-- The filters spelled by the texts sent under a key, in order, their escapes undone. -/
def spelledFilters (params : RawParams) (key : String) : List Filter :=
  (((params.filters.find? key).map (·.texts)).getD []).filterMap fun text =>
    Filter.ofText? (Text.Percent.decode text.toList)

/-- The last of the limits sent under a key. -/
def lastLimit (params : RawParams) (key : String) : Option String :=
  (params.limit.find? key).bind (·.texts.getLast?)

end RawParams

namespace Metadata

/-- The fields that a star stands for: all that may be selected, or the star itself if none are
declared. -/
def allowed (metadata : Metadata) : List String :=
  if metadata.selectable = [] then [wildcard] else metadata.selectable

/-- The fields chosen by a list of names: all of them for a star, else the selectable ones. -/
def chosen (metadata : Metadata) (names : List String) : List String :=
  if wildcard ∈ names then metadata.allowed else names.filter metadata.canSelect

end Metadata

namespace Scope

/-- The resource that a key leads to: the main one, or the target of a declared relation. -/
def resource? (scope : Scope) (key : String) : Option Metadata :=
  if key = scope.main.name then some scope.main else (scope.related? key).map (·.2)

/-- The fields chosen under a key; on the main resource, failing any, all of them. -/
def chosen (scope : Scope) (params : RawParams) (key : String) : List String :=
  match scope.resource? key with
  | none => []
  | some metadata =>
    let names := metadata.chosen (params.commaNames key)
    if key = scope.main.name ∧ names = [] then metadata.allowed else names

/-- The filters kept under a key: those spelled, without those on fields that may not be selected
where filters are confined. -/
def kept (scope : Scope) (confined : Bool) (params : RawParams) (key : String) : List Filter :=
  match scope.resource? key with
  | none => []
  | some metadata =>
    (params.spelledFilters key).filter fun filter => !confined || metadata.canSelect filter.field

/-- The relations under which fields are chosen, in the order of their names. -/
def loaded (scope : Scope) (params : RawParams) : List String :=
  scope.main.relations.keys.filter fun key =>
    decide (key ≠ scope.main.name ∧ scope.chosen params key ≠ [])

end Scope

/-! ## Resources of keys -/

namespace Scope

variable {scope : Scope} {key : String} {relation : Relation} {metadata : Metadata}

/-- A relation has its declaration and the description of its target. -/
theorem related?_eq_some_iff :
    scope.related? key = some (relation, metadata) ↔
      scope.main.relation? key = some relation ∧
        scope.registry.find? relation.target = some metadata := by
  simp only [related?, Option.bind_eq_bind, Option.bind_eq_some_iff, Option.pure_def,
    Option.some.injEq, Prod.mk.injEq]
  constructor
  · rintro ⟨_, found, _, target, rfl, rfl⟩
    exact ⟨found, target⟩
  · rintro ⟨found, target⟩
    exact ⟨relation, found, metadata, target, rfl, rfl⟩

/-- The target of a relation has a valid description, since it is registered. -/
theorem valid_of_related? (h : scope.related? key = some (relation, metadata)) : metadata.Valid :=
  Registry.valid_of_find? (related?_eq_some_iff.1 h).2

theorem resource?_main : scope.resource? scope.main.name = some scope.main := if_pos rfl

theorem resource?_of_ne (h : key ≠ scope.main.name) :
    scope.resource? key = (scope.related? key).map (·.2) := if_neg h

/-- Whatever a key leads to has a valid description. -/
theorem valid_of_resource? (valid : scope.main.Valid) (h : scope.resource? key = some metadata) :
    metadata.Valid := by
  rw [resource?] at h
  split at h
  · exact Option.some.inj h ▸ valid
  · obtain ⟨⟨relation, target⟩, found, rfl⟩ := Option.map_eq_some_iff.1 h
    exact valid_of_related? found

/-- The resource that a key leads to is the one its fields and filters are checked against. -/
theorem metadata?_of_resource? (h : scope.resource? key = some metadata) :
    scope.metadata? key = some metadata := by
  unfold resource? at h
  unfold metadata? isMain
  by_cases main : key = scope.main.name
  · rw [if_pos main] at h
    rw [if_pos (decide_eq_true main), h]
  · rw [if_neg main] at h
    obtain ⟨⟨relation, target⟩, found, rfl⟩ := Option.map_eq_some_iff.1 h
    obtain ⟨declared, registered⟩ := related?_eq_some_iff.1 found
    rw [if_neg (by simpa using main), typeOf, if_neg (by simpa [isMain] using main), declared]
    exact registered

/-- The resource that a declared relation is checked against is the one it leads to. -/
theorem related?_of_metadata? (relational : key ≠ scope.main.name)
    (declared : scope.main.relation? key = some relation)
    (known : scope.metadata? key = some metadata) :
    scope.related? key = some (relation, metadata) := by
  rw [metadata?, if_neg (by simpa [isMain] using relational), typeOf,
    if_neg (by simpa [isMain] using relational), declared] at known
  exact related?_eq_some_iff.2 ⟨declared, known⟩

/-- A declared relation that leads nowhere is not known at all. -/
theorem metadata?_of_dangling (relational : key ≠ scope.main.name)
    (declared : scope.main.relation? key = some relation) (h : scope.related? key = none) :
    scope.metadata? key = none := by
  rw [Option.eq_none_iff_forall_ne_some]
  intro metadata known
  rw [related?_of_metadata? relational declared known] at h
  exact Option.some_ne_none _ h

end Scope

/-! ## Fields chosen under a key -/

/-- All fields together are those that are allowed. -/
theorem Metadata.allFields_eq (metadata : Metadata) :
    metadata.allFields = .ofList metadata.allowed := by
  unfold allFields allowed
  by_cases h : metadata.selectable = []
  · rw [if_pos (by rw [h]; rfl), if_pos h]
  · rw [if_neg (by simpa using h), if_neg h]

/-- A selection is the set of what is chosen. -/
theorem Metadata.select_eq (metadata : Metadata) (names : List String) :
    metadata.select names = .ofList (metadata.chosen names) := by
  unfold select chosen
  by_cases h : wildcard ∈ names
  · rw [if_pos (by simpa using h), if_pos h, allFields_eq]
  · rw [if_neg (by simpa using h), if_neg h]

theorem FieldSet.isEmpty_ofList (names : List String) : (ofList names).isEmpty = names.isEmpty := by
  cases names with
  | nil => rfl
  | cons name rest =>
    rw [isEmpty, toList_ofList, List.eraseDups_cons]
    rfl

/-- The names of a value are what stands between commas, without the empty ones. -/
theorem RawValue.segments_eq (value : RawValue) :
    value.segments = (value.texts.flatMap fun text =>
      (Text.split ',' text.toList).map String.ofList).filter (· ≠ "") := by
  rw [segments, List.filter_flatMap]
  apply congrArg value.texts.flatMap
  funext text
  rw [List.filter_map, ← List.filterMap_eq_map, ← List.filterMap_eq_filter, List.filterMap_filterMap]
  refine List.filterMap_congr fun piece _ => ?_
  cases piece <;> simp [Option.guard]

namespace Metadata

variable {metadata : Metadata}

/-- Something is always allowed, if only the star. -/
theorem allowed_ne_nil (metadata : Metadata) : metadata.allowed ≠ [] := by
  unfold allowed
  split
  · exact List.cons_ne_nil _ _
  · assumption

/-- Empty names choose nothing. -/
theorem chosen_filter (valid : metadata.Valid) (names : List String) :
    metadata.chosen (names.filter (· ≠ "")) = metadata.chosen names := by
  have star : wildcard ∈ names.filter (· ≠ "") ↔ wildcard ∈ names := by
    simp [List.mem_filter, wildcard]
  have empty : metadata.canSelect "" = false := valid.not_canSelect_wildcard (by decide)
  rw [chosen, chosen, List.filter_filter]
  refine if_congr star rfl (List.filter_congr fun name _ => ?_)
  by_cases h : name = ""
  · rw [h, empty, Bool.false_and]
  · rw [decide_eq_true h, Bool.and_true]

end Metadata

namespace Scope

variable {scope : Scope} {metadata : Metadata} {key : String} (params : RawParams)

/-- The main resource has all fields where none is chosen. -/
theorem chosen_of_resource? (h : scope.resource? key = some metadata) :
    scope.chosen params key =
      if key = scope.main.name ∧ metadata.chosen (params.commaNames key) = [] then metadata.allowed
      else metadata.chosen (params.commaNames key) := by
  rw [chosen, h]

/-- Filters are kept if they are spelled right and allowed. -/
theorem kept_of_resource? (confined : Bool) (h : scope.resource? key = some metadata) :
    scope.kept confined params key = (params.spelledFilters key).filter fun filter =>
      !confined || metadata.canSelect filter.field := by
  rw [kept, h]

/-- Something is always chosen on the main resource. -/
theorem chosen_main_ne_nil : scope.chosen params scope.main.name ≠ [] := by
  rw [chosen_of_resource? params resource?_main]
  split
  case isTrue => exact scope.main.allowed_ne_nil
  case isFalse some => exact fun none => some ⟨rfl, none⟩

/-- A relation is loaded if something is chosen of it. -/
theorem mem_loaded_iff : key ∈ scope.loaded params ↔
    key ∈ scope.main.relations.keys ∧ key ≠ scope.main.name ∧ scope.chosen params key ≠ [] := by
  rw [loaded, List.mem_filter, decide_eq_true_iff]

end Scope

/-! ## What the passes take from the parameters -/

namespace Request

variable {scope : Scope} {metadata : Metadata} {key : String} (params : RawParams)

/-- What is selected under a key is what is chosen under it. -/
theorem selected?_eq (valid : scope.main.Valid) (h : scope.resource? key = some metadata) :
    selected? scope params key =
      if scope.chosen params key = [] then none else some (.ofList (scope.chosen params key)) := by
  have sent : ((params.fields.find? key).bind fun value => selection? scope key value.segments) =
      if metadata.chosen (params.commaNames key) = [] then none
      else some (.ofList (metadata.chosen (params.commaNames key))) := by
    have plain := Metadata.chosen_filter (Scope.valid_of_resource? valid h)
    rw [RawParams.commaNames]
    cases params.fields.find? key with
    | none => rfl
    | some value =>
      rw [Option.bind_some, selection?, Scope.metadata?_of_resource? h, Option.map_some,
        Metadata.select_eq, RawValue.segments_eq, plain]
      simp only [Option.filter, FieldSet.isEmpty_ofList, List.isEmpty_eq_false_iff,
        Bool.not_eq_true']
      exact ite_not ..
  rw [selected?, sent, Scope.chosen_of_resource? params h]
  -- only on the main resource an empty selection is filled up
  by_cases main : key = scope.main.name
  · subst main
    obtain rfl : scope.main = metadata := Option.some.inj (Scope.resource?_main.symm.trans h)
    by_cases none : scope.main.chosen (params.commaNames scope.main.name) = []
    · simp [none, Metadata.allFields_eq, scope.main.allowed_ne_nil]
    · simp [none]
  · simp [main]

/-! ## What the passes make of filters -/

variable {params} in
/-- The filters of a value are those that were spelled under its key. -/
theorem filtersOf_of_find? {value : RawValue} (sent : params.filters.find? key = some value) :
    filtersOf value = params.spelledFilters key := by
  rw [RawParams.spelledFilters, sent]
  rfl

variable {params} in
/-- Without a value no filter was spelled. -/
theorem spelledFilters_of_none (h : params.filters.find? key = none) :
    params.spelledFilters key = [] := by
  rw [RawParams.spelledFilters, h]
  rfl

/-- Under a key stand the filters that were sent for it and are not refused, if there are any. -/
theorem sentFilters?_eq_ite (confined : Bool) : sentFilters? scope confined params key =
    if (params.spelledFilters key).filter (!refuses scope confined key ·) = [] then none
    else some ((params.spelledFilters key).filter (!refuses scope confined key ·)) := by
  rw [sentFilters?]
  cases sent : params.filters.find? key with
  | none =>
    rw [spelledFilters_of_none sent, List.filter_nil, if_pos rfl]
    rfl
  | some value =>
    rw [Option.map_some, keptFilters, filtersOf_of_find? sent]
    cases (params.spelledFilters key).filter (!refuses scope confined key ·) <;> rfl

/-- A filter is refused for its field alone. -/
theorem refuses_of_resource? (leads : scope.resource? key = some metadata) (confined : Bool)
    (filter : Filter) :
    refuses scope confined key filter = (confined && !metadata.canSelect filter.field) := by
  rw [refuses, Scope.metadata?_of_resource? leads, Option.map_some, Option.getD_some]

/-- Under a key that leads to a resource stand the filters that are kept, if there are any. -/
theorem sentFilters?_of_resource? (confined : Bool) (leads : scope.resource? key = some metadata) :
    sentFilters? scope confined params key =
      if scope.kept confined params key = [] then none
      else some (scope.kept confined params key) := by
  have kept : (params.spelledFilters key).filter (!refuses scope confined key ·) =
      scope.kept confined params key := by
    rw [Scope.kept_of_resource? params confined leads]
    refine List.filter_congr fun filter _ => ?_
    rw [refuses_of_resource? leads, Bool.not_and, Bool.not_not]
  rw [sentFilters?_eq_ite, kept]

/-- The filters sent under a key are the ones kept under it. -/
theorem sentFilters?_eq (confined : Bool) (h : scope.resource? key = some metadata) :
    (sentFilters? scope confined params key).getD [] = scope.kept confined params key := by
  rw [sentFilters?_of_resource? params confined h]
  split
  case isTrue none => rw [none, Option.getD_none]
  case isFalse => rfl

/-- The targets of filters have a problem exactly under the keys that lead nowhere. -/
theorem filterProblem?_eq_none_iff (relational : key ≠ scope.main.name) :
    filterProblem? scope key = none ↔ ∃ metadata, scope.resource? key = some metadata := by
  rw [Scope.resource?_of_ne relational, filterProblem?, Scope.related?]
  cases scope.main.relation? key with
  | none => simp
  | some relation =>
    cases found : scope.registry.find? relation.target <;> simp [found]

/-- The resolution of targets drops no filters under a key that leads to a resource. -/
theorem resolves_of_resource? (leads : scope.resource? key = some metadata) :
    ¬(scope.isMain key = false ∧ (filterProblem? scope key).isSome) := by
  rintro ⟨relational, problem⟩
  have relational : key ≠ scope.main.name := of_decide_eq_false relational
  rw [(filterProblem?_eq_none_iff relational).2 ⟨metadata, leads⟩] at problem
  exact Bool.noConfusion problem

end Request

end Retrieval
