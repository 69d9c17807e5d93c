import Retrieval.Conversion
import Retrieval.Proofs.FieldSet
import Retrieval.Proofs.Request.Filter
import Retrieval.Proofs.Resource

/-!
# The passes of a request

A request is read pass by pass. Each pass changes one or two parts of it (the `_frame` lemmas), and
under one key it leaves what its step for that key alone leaves (the `_find?` lemmas), because every
pass goes through the keys one after another (`OrderedMap.foldl_entries`, `OrderedMap.foldl_keys`).

`Request.read_fields` and `Request.read_filters` put the passes together: they say what stands under
a key once all parameters are read.
-/

namespace Retrieval

namespace Request

/-! ## What a pass leaves alone -/

/-- A property that links a state to its successor at every step links it to the last state. -/
theorem foldl_frame {σ α : Type} {step : σ → α → σ} (Linked : σ → σ → Prop)
    (refl : ∀ s, Linked s s) (trans : ∀ {s t u}, Linked s t → Linked t u → Linked s u)
    (each : ∀ s a, Linked s (step s a)) (l : List α) (s : σ) : Linked s (l.foldl step s) := by
  induction l generalizing s with
  | nil => exact refl s
  | cons a rest ih => exact trans (each s a) (ih (step s a))

theorem readSorting_frame (main : Metadata) (text : Option String) (request : Request) :
    ∃ sorting problems, request.readSorting main text = { request with sorting, problems } := by
  cases text with
  | none => exact ⟨_, _, rfl⟩
  | some text =>
    refine foldl_frame (fun s t => ∃ sorting problems, t = { s with sorting, problems })
      (fun s => ⟨_, _, rfl⟩) ?_ ?_ (SortKey.ofText text) request
    · rintro s _ _ ⟨_, _, rfl⟩ ⟨sorting, problems, rfl⟩
      exact ⟨sorting, problems, rfl⟩
    · intro s key
      rw [sortBy]
      split <;> exact ⟨_, _, rfl⟩

theorem select_frame (scope : Scope) (request : Request) (key : String) (names : List String) :
    ∃ fields problems, request.select scope key names = { request with fields, problems } := by
  unfold select
  split
  · exact ⟨_, _, rfl⟩
  · split
    · exact ⟨_, _, rfl⟩
    · rw [putFields]
      split <;> exact ⟨_, _, rfl⟩

theorem readFields_frame (scope : Scope) (raw : OrderedMap RawValue) (request : Request) :
    ∃ fields problems, request.readFields scope raw = { request with fields, problems } := by
  have selected : ∃ fields problems, raw.entries.foldl
      (fun request entry => request.select scope entry.1 entry.2.segments) request =
        { request with fields, problems } := by
    refine foldl_frame (fun s t => ∃ fields problems, t = { s with fields, problems })
      (fun s => ⟨_, _, rfl⟩) ?_ ?_ raw.entries request
    · rintro s _ _ ⟨_, _, rfl⟩ ⟨fields, problems, rfl⟩
      exact ⟨fields, problems, rfl⟩
    · intro s entry
      exact select_frame scope s entry.1 entry.2.segments
  obtain ⟨fields, problems, eq⟩ := selected
  rw [readFields, eq, defaultMain]
  split <;> exact ⟨_, _, rfl⟩

theorem readFilters_frame (scope : Scope) (raw : OrderedMap RawValue) (confined : Bool)
    (request : Request) :
    ∃ filters problems,
      request.readFilters scope raw confined = { request with filters, problems } := by
  refine foldl_frame (fun s t => ∃ filters problems, t = { s with filters, problems })
      (fun s => ⟨_, _, rfl⟩) ?_ ?_ raw.entries request
  · rintro s _ _ ⟨_, _, rfl⟩ ⟨filters, problems, rfl⟩
    exact ⟨filters, problems, rfl⟩
  · intro s entry
    unfold filterBy putFilters
    dsimp only
    split <;> exact ⟨_, _, rfl⟩

theorem join_frame (scope : Scope) (request : Request) (key : String) :
    ∃ fields problems, request.join scope key = { request with fields, problems } := by
  unfold join
  split
  · exact ⟨_, _, rfl⟩
  · split <;> exact ⟨_, _, rfl⟩

theorem foldl_join_frame (scope : Scope) (keys : List String) (request : Request) :
    ∃ fields problems, keys.foldl (join scope) request = { request with fields, problems } := by
  refine foldl_frame (fun s t => ∃ fields problems, t = { s with fields, problems })
      (fun s => ⟨_, _, rfl⟩) ?_ (join_frame scope) keys request
  rintro s _ _ ⟨_, _, rfl⟩ ⟨fields, problems, rfl⟩
  exact ⟨fields, problems, rfl⟩

theorem joinRelations_frame (scope : Scope) (request : Request) :
    ∃ fields problems, request.joinRelations scope = { request with fields, problems } :=
  foldl_join_frame scope (otherKeys scope request.fields) request

theorem resolveFilters_frame (scope : Scope) (request : Request) :
    ∃ filters problems, request.resolveFilters scope = { request with filters, problems } := by
  refine foldl_frame (fun s t => ∃ filters problems, t = { s with filters, problems })
      (fun s => ⟨_, _, rfl⟩) ?_ ?_ _ request
  · rintro s _ _ ⟨_, _, rfl⟩ ⟨filters, problems, rfl⟩
    exact ⟨filters, problems, rfl⟩
  · intro s key
    rw [dropFilters]
    split <;> exact ⟨_, _, rfl⟩

theorem limitBy_frame (request : Request) (key : String) (value : RawValue) :
    ∃ limits problems, request.limitBy key value = { request with limits, problems } := by
  rw [limitBy]
  repeat' split
  all_goals exact ⟨_, _, rfl⟩

theorem readLimits_frame (raw : OrderedMap RawValue) (request : Request) :
    ∃ limits problems, request.readLimits raw = { request with limits, problems } := by
  refine foldl_frame (fun s t => ∃ limits problems, t = { s with limits, problems })
      (fun s => ⟨_, _, rfl⟩) ?_ ?_ raw.entries request
  · rintro s _ _ ⟨_, _, rfl⟩ ⟨limits, problems, rfl⟩
    exact ⟨limits, problems, rfl⟩
  · intro s entry
    exact limitBy_frame s entry.1 entry.2

/-! ## Selected fields under a key -/

/-- What a list of names selects under a key: nothing if the key names no known resource, and
nothing if no field is left. -/
def selection? (scope : Scope) (key : String) (names : List String) : Option FieldSet :=
  ((scope.metadata? key).map (·.select names)).filter (!·.isEmpty)

/-- A selection replaces the fields under its own key, if it selects something. -/
theorem select_find? (scope : Scope) (request : Request) (key : String) (names : List String)
    (name : String) :
    (request.select scope key names).fields.find? name =
      if name = key then (selection? scope key names).or (request.fields.find? name)
      else request.fields.find? name := by
  unfold select selection?
  split
  case isTrue none =>
    obtain rfl : names = [] := List.isEmpty_iff.1 none
    have empty : ∀ metadata : Metadata, (metadata.select []).isEmpty = true := fun _ => rfl
    cases scope.metadata? key <;> simp [Option.filter, empty]
  case isFalse =>
    cases scope.metadata? key with
    | none => simp [report]
    | some metadata =>
      unfold putFields
      cases left : (metadata.select names).isEmpty with
      | true => simp [Option.filter, left, reportAll]
      | false => simp [Option.filter, left, reportAll]

/-- Under a key stands what was sent for it; under the main resource, failing that, all fields. -/
theorem readFields_find? (scope : Scope) (raw : OrderedMap RawValue) {request : Request}
    (fresh : request.fields = .empty) (name : String) :
    (request.readFields scope raw).fields.find? name =
      ((raw.find? name).bind fun value => selection? scope name value.segments).or
        (if name = scope.main.name then some scope.main.allFields else none) := by
  have sent (name : String) : (raw.entries.foldl
      (fun request entry => request.select scope entry.1 entry.2.segments) request).fields.find?
        name = (raw.find? name).bind fun value => selection? scope name value.segments := by
    refine (raw.foldl_entries (fun s : Request => s.fields.find? name) name
      (fun value found => (selection? scope name value.segments).or found) ?_ ?_ request).trans ?_
    · intro s value
      rw [select_find?, if_pos rfl]
    · intro s key value ne
      rw [select_find?, if_neg (Ne.symm ne)]
    · cases raw.find? name <;> simp [fresh]
  -- the default fills in only where nothing stands under the main resource
  rw [readFields, defaultMain]
  split
  case isTrue present =>
    rw [sent]
    by_cases h : name = scope.main.name
    · subst h
      rw [OrderedMap.contains, sent] at present
      obtain ⟨fields, found⟩ := Option.isSome_iff_exists.1 present
      rw [found, Option.some_or]
    · rw [if_neg h, Option.or_none]
  case isFalse absent =>
    rw [OrderedMap.find?_insert]
    by_cases h : name = scope.main.name
    · subst h
      rw [OrderedMap.contains, sent] at absent
      have none := Option.not_isSome_iff_eq_none.1 absent
      rw [if_pos rfl, if_pos rfl, none, Option.none_or]
    · rw [if_neg h, if_neg h, sent, Option.or_none]

/-! ## Filters under a key -/

/-- The filters of a value that are not refused under a key. -/
def keptFilters (scope : Scope) (confined : Bool) (key : String) (value : RawValue) : List Filter :=
  (filtersOf value).filter (!refuses scope confined key ·)

/-- Filters that are kept go behind those that are there under the key. -/
theorem filterBy_find? (scope : Scope) (confined : Bool) (request : Request) (key : String)
    (value : RawValue) (name : String) :
    (request.filterBy scope confined key value).filters.find? name =
      if name = key ∧ keptFilters scope confined key value ≠ [] then
        some ((request.filters.find? name).getD [] ++ keptFilters scope confined key value)
      else request.filters.find? name := by
  -- the refused filters are reported and the others are kept
  have parted : (filtersOf value).partition (refuses scope confined key) =
      ((filtersOf value).filter (refuses scope confined key),
        keptFilters scope confined key value) := by
    rw [List.partition_eq_filter_filter]
    rfl
  unfold filterBy putFilters
  rw [parted]
  dsimp only
  cases kept : keptFilters scope confined key value with
  | nil => simp [reportAll]
  | cons filter rest =>
    by_cases h : name = key
    · subst h
      simp [reportAll]
    · simp [reportAll, h]

/-- Under a key stand the filters sent for it that are kept, if there are any. -/
theorem readFilters_find? (scope : Scope) (raw : OrderedMap RawValue) (confined : Bool)
    {request : Request} (fresh : request.filters = .empty) (name : String) :
    (request.readFilters scope raw confined).filters.find? name =
      ((raw.find? name).map (keptFilters scope confined name)).filter (!·.isEmpty) := by
  refine (raw.foldl_entries (fun s : Request => s.filters.find? name) name
    (fun value found => if keptFilters scope confined name value ≠ [] then
      some (found.getD [] ++ keptFilters scope confined name value) else found)
    ?_ ?_ request).trans ?_
  · intro s value
    rw [filterBy_find?]
    simp
  · intro s key value ne
    rw [filterBy_find?, if_neg fun h => ne h.1.symm]
  · cases raw.find? name with
    | none => simp [fresh]
    | some value =>
      cases kept : keptFilters scope confined name value <;> simp [kept, fresh, Option.filter]

/-- A pass that drops keys keeps what stands under the others. -/
theorem resolveFilters_find? (scope : Scope) (request : Request) (name : String) :
    (request.resolveFilters scope).filters.find? name =
      if scope.isMain name = false ∧ (filterProblem? scope name).isSome then none
      else request.filters.find? name := by
  -- the pass goes through the keys of the filters themselves, each of them once
  have nodup : (otherKeys scope request.filters).Nodup := request.filters.keys_nodup.filter _
  refine (OrderedMap.foldl_keys nodup (fun s : Request => s.filters.find? name) name
    (fun found => if (filterProblem? scope name).isSome then none else found) ?_ ?_ request).trans ?_
  · intro s
    rw [dropFilters]
    cases filterProblem? scope name <;> simp [report]
  · intro s key _ ne
    rw [dropFilters]
    cases filterProblem? scope key <;> simp [report, Ne.symm ne]
  · by_cases mem : name ∈ request.filters.keys
    · cases main : scope.isMain name <;> simp [otherKeys, mem, main]
    · simp [otherKeys, mem, OrderedMap.find?_eq_none_iff.2 mem]

/-! ## Adding fields to a selection -/

/-- Names are added once, and none to a star. -/
theorem toList_extend (fields : FieldSet) (names : List String) :
    (extend fields names).toList =
      if wildcard ∈ fields.toList then fields.toList else (fields.toList ++ names).eraseDups := by
  unfold extend
  by_cases h : wildcard ∈ fields.toList
  · rw [if_pos (FieldSet.contains_iff.2 h), if_pos h]
  · rw [if_neg (mt FieldSet.contains_iff.1 h), if_neg h, FieldSet.toList_ensureAll]

/-- Adding no names changes nothing. -/
theorem extend_nil (fields : FieldSet) : extend fields [] = fields := by
  rw [extend]
  split <;> rfl

/-- Adding twice is adding once, as long as no star is added. -/
theorem extend_extend (fields : FieldSet) {names : List String} (plain : wildcard ∉ names)
    (others : List String) :
    extend (extend fields names) others = extend fields (names ++ others) := by
  ext1
  by_cases h : wildcard ∈ fields.toList
  · simp only [toList_extend, if_pos h]
  · -- no star comes in with the first names, so the others are added as well
    have absent : wildcard ∉ (fields.toList ++ names).eraseDups := by
      rw [List.mem_eraseDups, List.mem_append, not_or]
      exact ⟨h, plain⟩
    simp only [toList_extend, if_neg h, if_neg absent]
    rw [FieldSet.eraseDups_append_left, List.append_assoc]

/-- Adding lists of names in turn is adding them all at once. -/
theorem foldl_extend {keys : List String} {added : String → List String}
    (plain : ∀ key ∈ keys, wildcard ∉ added key) (fields : FieldSet) :
    keys.foldl (fun fields key => extend fields (added key)) fields =
      extend fields (keys.flatMap added) := by
  induction keys generalizing fields with
  | nil => rw [List.foldl_nil, List.flatMap_nil, extend_nil]
  | cons key rest ih =>
    obtain ⟨first, later⟩ := List.forall_mem_cons.1 plain
    rw [List.foldl_cons, ih later, extend_extend fields first, List.flatMap_cons]

/-! ## Joining keys under a key -/

/-- The keys that a relation of a given name adds to the main resource. -/
def mainKeys (scope : Scope) (key : String) : List String :=
  match scope.main.relation? key with
  | none => []
  | some relation =>
    match relation.kind with
    | .toOne _ => [relation.ownerForeignKey key]
    | .toMany _ => []
    | .manyToMany .. => [scope.main.primaryKey]

/-- What becomes of the fields of a relation when it is joined. -/
def joined? (scope : Scope) (key : String) (fields : FieldSet) : Option FieldSet :=
  (scope.main.relation? key).map fun relation =>
    match relation.kind with
    | .toOne _ => extend fields [relatedKey scope relation]
    | .toMany _ => extend fields [relation.relatedForeignKey scope.main.name]
    | .manyToMany .. => qualifyKey key (relatedKey scope relation) fields

/-- Joining a relation concerns its own fields, those of the main resource and no others. -/
theorem join_find? (scope : Scope) (request : Request) {key : String}
    (relational : key ≠ scope.main.name) (name : String) :
    (request.join scope key).fields.find? name =
      if name = scope.main.name then
        (request.fields.find? name).map (extend · (mainKeys scope key))
      else if name = key then (request.fields.find? name).bind (joined? scope key)
      else request.fields.find? name := by
  unfold join mainKeys joined?
  -- a key that names no relation is dropped, any other is joined as its kind asks
  cases scope.main.relation? key with
  | none =>
    by_cases h : name = scope.main.name
    · subst h
      simp [report, Ne.symm relational, extend_nil]
    · by_cases hk : name = key
      · subst hk
        simp [report, h]
      · simp [report, h, hk]
  | some relation =>
    obtain ⟨target, kind⟩ := relation
    by_cases h : name = scope.main.name
    · subst h
      cases kind <;> simp [ensureField, Ne.symm relational, extend_nil]
    · by_cases hk : name = key
      · subst hk
        cases kind <;> simp [ensureField, h, Option.map_eq_bind]
      · cases kind <;> simp [ensureField, h, hk]

/-- The other keys are all but the main one. -/
theorem mem_otherKeys_iff {α : Type} {scope : Scope} {m : OrderedMap α} {key : String} :
    key ∈ otherKeys scope m ↔ key ∈ m.keys ∧ key ≠ scope.main.name := by
  simp [otherKeys, Scope.isMain]

section Joining

variable {scope : Scope} {keys : List String}

/-- Joining keys one after another, each once, concerns under another name than the main one only
the key of that name. -/
theorem foldl_join_find? (nodup : keys.Nodup) (relational : ∀ key ∈ keys, key ≠ scope.main.name)
    (request : Request) {name : String} (other : name ≠ scope.main.name) :
    (keys.foldl (join scope) request).fields.find? name =
      if name ∈ keys then (request.fields.find? name).bind (joined? scope name)
      else request.fields.find? name := by
  refine OrderedMap.foldl_keys nodup (fun s : Request => s.fields.find? name) name
    (·.bind (joined? scope name)) ?_ ?_ request
  · intro s
    rw [join_find? scope s other, if_neg other, if_pos rfl]
  · intro s key mem ne
    rw [join_find? scope s (relational key mem), if_neg other, if_neg (Ne.symm ne)]

/-- The main resource gains the keys of the relations that are joined, in their order. -/
theorem foldl_join_main (relational : ∀ key ∈ keys, key ≠ scope.main.name) (request : Request) :
    (keys.foldl (join scope) request).fields.find? scope.main.name =
      (request.fields.find? scope.main.name).map fun fields =>
        keys.foldl (fun fields key => extend fields (mainKeys scope key)) fields := by
  induction keys generalizing request with
  | nil => exact Option.map_id'.symm
  | cons key rest ih =>
    obtain ⟨first, later⟩ := List.forall_mem_cons.1 relational
    rw [List.foldl_cons, ih later, join_find? scope request first, if_pos rfl, Option.map_map]
    rfl

theorem ne_of_mem_otherKeys {α : Type} {m : OrderedMap α} :
    ∀ key ∈ otherKeys scope m, key ≠ scope.main.name :=
  fun _ mem => (mem_otherKeys_iff.1 mem).2

/-- No other key comes twice. -/
theorem nodup_otherKeys {α : Type} (m : OrderedMap α) : (otherKeys scope m).Nodup :=
  m.keys_nodup.filter _

variable (scope)

/-- Under a key other than the main one stands what its own joining leaves. -/
theorem joinRelations_find? (request : Request) {name : String}
    (relational : name ≠ scope.main.name) :
    (request.joinRelations scope).fields.find? name =
      (request.fields.find? name).bind (joined? scope name) := by
  rw [joinRelations, foldl_join_find? (nodup_otherKeys _) ne_of_mem_otherKeys request relational]
  split
  case isTrue => rfl
  case isFalse absent =>
    have none : request.fields.find? name = none :=
      OrderedMap.find?_eq_none_iff.2 fun mem => absent (mem_otherKeys_iff.2 ⟨mem, relational⟩)
    rw [none, Option.bind_none]

/-- The main resource gains the keys of every relation, in the order of their names. -/
theorem joinRelations_main (request : Request) :
    (request.joinRelations scope).fields.find? scope.main.name =
      (request.fields.find? scope.main.name).map fun fields =>
        (otherKeys scope request.fields).foldl (fun fields key => extend fields (mainKeys scope key))
          fields :=
  -- the keys were read off before the pass, so they do not change with the request
  foldl_join_main ne_of_mem_otherKeys request

end Joining

/-! ## All passes together -/

/-- What is selected under a key before any field is added to it. -/
def selected? (scope : Scope) (params : RawParams) (name : String) : Option FieldSet :=
  ((params.fields.find? name).bind fun value => selection? scope name value.segments).or
    (if name = scope.main.name then some scope.main.allFields else none)

/-- The filters sent under a key that are kept, if there are any. -/
def sentFilters? (scope : Scope) (confined : Bool) (params : RawParams) (name : String) :
    Option (List Filter) :=
  ((params.filters.find? name).map (keptFilters scope confined name)).filter (!·.isEmpty)

/-- The fields of the filters sent under a key. -/
def filteredFields (scope : Scope) (confined : Bool) (params : RawParams) (name : String) :
    List String :=
  ((sentFilters? scope confined params name).getD []).map (·.field)

variable (scope : Scope) (settings : Settings) (params : RawParams) (action : Action)

/-- The request once its sort keys are read. -/
def sorted : Request :=
  let start := Request.start scope.resourceType scope.main.name action
  if action = .index then start.readSorting scope.main params.sorting else start

/-- The request once its filters are read, before the relations are joined. -/
def unjoined : Request :=
  (((sorted scope params action).readFields scope params.fields).readFilters scope params.filters
    settings.strictFilters).selectFiltered

/-- Reading sort keys leaves the start of a request but for the keys and problems. -/
theorem sorted_frame : ∃ sorting problems, sorted scope params action =
    { Request.start scope.resourceType scope.main.name action with sorting, problems } := by
  rw [sorted]
  split
  · exact readSorting_frame _ _ _
  · exact ⟨_, _, rfl⟩

/-- Reading joins the relations, drops filters that lead nowhere, and reads limits and the page. -/
theorem read_frame : ∃ limits window problems, Request.read scope settings params action =
    { ((unjoined scope settings params action).joinRelations scope).resolveFilters scope with
      limits, window, problems } := by
  obtain ⟨limits, problems, limited⟩ := readLimits_frame params.limit
    (((unjoined scope settings params action).joinRelations scope).resolveFilters scope)
  have eq : Request.read scope settings params action =
      if action = .index then
        Request.readWindow settings params.page params.perPage ((((unjoined scope settings params
          action).joinRelations scope).resolveFilters scope).readLimits params.limit)
      else (((unjoined scope settings params action).joinRelations scope).resolveFilters
        scope).readLimits params.limit := rfl
  rw [eq, limited]
  split
  · exact ⟨_, _, _, rfl⟩
  · exact ⟨_, _, _, rfl⟩

/-- Up to the joining, only fields, filters and problems come in behind the sort keys. -/
theorem unjoined_frame : ∃ fields filters problems, unjoined scope settings params action =
    { sorted scope params action with fields, filters, problems } := by
  obtain ⟨fields, problems, selected⟩ := readFields_frame scope params.fields
    (sorted scope params action)
  obtain ⟨filters, problems, filtered⟩ := readFilters_frame scope params.filters
    settings.strictFilters ((sorted scope params action).readFields scope params.fields)
  rw [unjoined, filtered, selected]
  exact ⟨_, _, _, rfl⟩

/-- Before the joining there are the filters that were sent and not refused. -/
theorem unjoined_filters (name : String) :
    (unjoined scope settings params action).filters.find? name =
      sentFilters? scope settings.strictFilters params name := by
  obtain ⟨sorting, problems, fresh⟩ := sorted_frame scope params action
  obtain ⟨fields, problems, selected⟩ := readFields_frame scope params.fields
    (sorted scope params action)
  rw [unjoined, sentFilters?]
  refine readFilters_find? scope params.filters settings.strictFilters ?_ name
  rw [selected, fresh]
  rfl

/-- Before the joining there is what was selected, with the fields of filters. -/
theorem unjoined_fields (name : String) :
    (unjoined scope settings params action).fields.find? name =
      (selected? scope params name).map
        (extend · (filteredFields scope settings.strictFilters params name)) := by
  obtain ⟨sorting, problems, fresh⟩ := sorted_frame scope params action
  obtain ⟨filters, problems, filtered⟩ := readFilters_frame scope params.filters
    settings.strictFilters ((sorted scope params action).readFields scope params.fields)
  have sent := unjoined_filters scope settings params action name
  rw [unjoined, selectFiltered] at sent ⊢
  rw [OrderedMap.find?_map, filteredFields, ← sent, filtered]
  rw [readFields_find? scope params.fields (by rw [fresh]; rfl), selected?]

/-- Under a relation stands what was selected, with the fields of its filters, joined. -/
theorem read_fields {name : String} (relational : name ≠ scope.main.name) :
    (Request.read scope settings params action).fields.find? name =
      ((selected? scope params name).map
        (extend · (filteredFields scope settings.strictFilters params name))).bind
          (joined? scope name) := by
  obtain ⟨limits, window, problems, eq⟩ := read_frame scope settings params action
  obtain ⟨filters, problems, resolved⟩ := resolveFilters_frame scope
    ((unjoined scope settings params action).joinRelations scope)
  rw [eq, resolved, ← unjoined_fields scope settings params action]
  exact joinRelations_find? scope _ relational

/-- The keys under which something is selected before the relations are joined, but the main one. -/
theorem mem_otherKeys_unjoined {name : String} :
    name ∈ otherKeys scope (unjoined scope settings params action).fields ↔
      (selected? scope params name).isSome ∧ name ≠ scope.main.name := by
  rw [mem_otherKeys_iff, OrderedMap.mem_keys_iff, unjoined_fields, ← Option.isSome_iff_exists,
    Option.isSome_map]

variable {scope} in
/-- The fields of filters are no stars. -/
theorem wildcard_not_mem_filteredFields (confined : Bool) (name : String) :
    wildcard ∉ filteredFields scope confined params name := by
  rw [filteredFields, List.mem_map]
  rintro ⟨filter, mem, star⟩
  -- a filter that is kept was spelled, and the field of a spelled filter is a name
  have spelled : ∃ text, Filter.ofText? text = some filter := by
    cases sent : sentFilters? scope confined params name with
    | none => simp [sent] at mem
    | some filters =>
      obtain ⟨kept, -⟩ := Option.filter_eq_some_iff.1 sent
      obtain ⟨value, -, rfl⟩ := Option.map_eq_some_iff.1 kept
      rw [sent, Option.getD_some, keptFilters, List.mem_filter, filtersOf,
        List.mem_filterMap] at mem
      obtain ⟨⟨text, -, spelled⟩, -⟩ := mem
      exact ⟨_, spelled⟩
  obtain ⟨text, spelled⟩ := spelled
  exact Ident.ne_of_isName (Filter.isName_field spelled) (by decide) star

/-- No key of a relation is the star. -/
theorem wildcard_not_mem_mainKeys {scope : Scope} (valid : scope.main.Valid) (name : String) :
    wildcard ∉ mainKeys scope name := by
  have star {key : String} (named : Ident.isName key) : wildcard ≠ key :=
    (Ident.ne_of_isName named (by decide)).symm
  unfold mainKeys
  split
  · exact List.not_mem_nil
  · next relation found =>
    split
    · simpa using star (Relation.isName_ownerForeignKey valid found)
    · exact List.not_mem_nil
    · simpa using star valid.isName_primaryKey

/-- The main resource gains all keys at once, since none is a star. -/
theorem foldl_join_main_extend {scope : Scope} (valid : scope.main.Valid) {keys : List String}
    (relational : ∀ key ∈ keys, key ≠ scope.main.name) (request : Request) :
    (keys.foldl (join scope) request).fields.find? scope.main.name =
      (request.fields.find? scope.main.name).map (extend · (keys.flatMap (mainKeys scope))) := by
  rw [foldl_join_main relational]
  apply congrArg (Option.map · _)
  funext fields
  exact foldl_extend (fun key _ => wildcard_not_mem_mainKeys valid key) fields

variable {scope} in
/-- Under the main resource stands what was selected, with the fields of its filters and the keys of
all relations in the order of their names. -/
theorem read_main (valid : scope.main.Valid) :
    (Request.read scope settings params action).fields.find? scope.main.name =
      (selected? scope params scope.main.name).map (extend ·
        (filteredFields scope settings.strictFilters params scope.main.name ++
          (otherKeys scope (unjoined scope settings params action).fields).flatMap
            (mainKeys scope))) := by
  obtain ⟨limits, window, problems, eq⟩ := read_frame scope settings params action
  obtain ⟨filters, problems, resolved⟩ := resolveFilters_frame scope
    ((unjoined scope settings params action).joinRelations scope)
  rw [eq, resolved]
  refine (foldl_join_main_extend valid ne_of_mem_otherKeys _).trans ?_
  rw [unjoined_fields, Option.map_map]
  apply congrArg (Option.map · _)
  funext fields
  -- the fields of filters hold no star either, so they are added together with the keys
  exact extend_extend _ (wildcard_not_mem_filteredFields params _ _) _

/-- Under a key that leads to a known resource stand the filters sent for it that are kept. -/
theorem read_filters (name : String) :
    (Request.read scope settings params action).filters.find? name =
      if scope.isMain name = false ∧ (filterProblem? scope name).isSome then none
      else sentFilters? scope settings.strictFilters params name := by
  obtain ⟨limits, window, problems, eq⟩ := read_frame scope settings params action
  obtain ⟨fields, problems, joined⟩ := joinRelations_frame scope
    (unjoined scope settings params action)
  rw [eq, ← unjoined_filters scope settings params action]
  refine (resolveFilters_find? scope _ name).trans ?_
  rw [joined]

/-- The passes before the limits write the fields, the filters and the problems. -/
theorem resolved_frame : ∃ fields filters problems,
    ((unjoined scope settings params action).joinRelations scope).resolveFilters scope =
      { sorted scope params action with fields, filters, problems } := by
  obtain ⟨filters, problems, resolved⟩ := resolveFilters_frame scope
    ((unjoined scope settings params action).joinRelations scope)
  obtain ⟨fields, problems, joined⟩ := joinRelations_frame scope
    (unjoined scope settings params action)
  obtain ⟨fields, filters, problems, start⟩ := unjoined_frame scope settings params action
  rw [resolved, joined, start]
  exact ⟨_, _, _, rfl⟩

/-- The other passes leave the head of the request and its sort keys as they are. -/
theorem read_sorted_frame : ∃ fields filters limits window problems,
    Request.read scope settings params action =
      { sorted scope params action with fields, filters, limits, window, problems } := by
  obtain ⟨limits, window, problems, eq⟩ := read_frame scope settings params action
  obtain ⟨fields, filters, problems, resolved⟩ := resolved_frame scope settings params action
  rw [eq, resolved]
  exact ⟨_, _, _, _, _, rfl⟩

/-- A request is about the main resource. -/
theorem read_resource : (Request.read scope settings params action).resource = scope.main.name := by
  obtain ⟨fields, filters, limits, window, problems, eq⟩ :=
    read_sorted_frame scope settings params action
  obtain ⟨sorting, problems, start⟩ := sorted_frame scope params action
  rw [eq, start]
  rfl

/-- A request is for the action it was read for. -/
theorem read_action : (Request.read scope settings params action).action = action := by
  obtain ⟨fields, filters, limits, window, problems, eq⟩ :=
    read_sorted_frame scope settings params action
  obtain ⟨sorting, problems, start⟩ := sorted_frame scope params action
  rw [eq, start]
  rfl

/-- A list is sorted by the keys that were sent for fields that may be sorted by. -/
theorem read_sorting : (Request.read scope settings params action).sorting =
    if action = .index then
      (((params.sorting.map SortKey.ofText).getD []).filter (scope.main.canSort ·.field))
    else [] := by
  -- keys that are refused leave the list of keys
  have run (keys : List SortKey) (request : Request) :
      (keys.foldl (sortBy scope.main) request).sorting =
        request.sorting ++ keys.filter (scope.main.canSort ·.field) := by
    induction keys generalizing request with
    | nil => rw [List.foldl_nil, List.filter_nil, List.append_nil]
    | cons key rest ih =>
      rw [List.foldl_cons, ih, sortBy]
      by_cases allowed : scope.main.canSort key.field
      · simp [allowed]
      · simp [allowed, report]
  obtain ⟨fields, filters, limits, window, problems, eq⟩ :=
    read_sorted_frame scope settings params action
  rw [eq]
  show (sorted scope params action).sorting = _
  rw [sorted]
  split
  · unfold readSorting
    cases params.sorting with
    | none => rfl
    | some text => exact run _ _
  · rfl

end Request

end Retrieval
