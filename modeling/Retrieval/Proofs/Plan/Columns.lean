import Retrieval.Proofs.Plan.Content

/-!
# Columns that filters bring

A filter that is kept adds its field to the columns of its resource. Two requests that differ in
their filters, or in which of them are kept, have plans that are alike but for their conditions and
columns (`Scope.plan_alike`), and a column that only one of them has was brought by one of its
filters (`Scope.mem_mainList_or_brings`, `Scope.mem_relatedList_or_brings`).
-/

namespace Retrieval

/-! ## Plans that are alike -/

/-- Whether two relations are loaded alike, with related columns. -/
structure EagerLoad.Alike (Related : String → FieldSet → FieldSet → Prop) (load other : EagerLoad) :
    Prop where
  relation : load.relation = other.relation
  table : load.table = other.table
  primaryKey : load.primaryKey = other.primaryKey
  correlation : load.correlation = other.correlation
  limit : load.limit = other.limit
  columns : Related load.relation load.columns other.columns

/-- Whether two plans are the same but for their conditions and columns, with related columns under
every key. -/
structure Plan.Alike (Related : String → FieldSet → FieldSet → Prop) (plan other : Plan) :
    Prop where
  resourceType : plan.resourceType = other.resourceType
  table : plan.table = other.table
  label : plan.label = other.label
  columns : Related plan.label plan.columns other.columns
  eager : List.Forall₂ (EagerLoad.Alike Related) plan.eager other.eager
  sort : plan.sort = other.sort
  lookup : plan.lookup = other.lookup
  window : plan.window = other.window

/-- Two lists of what stands under the same names are related member by member. -/
theorem forall₂_filterMap {α β : Type} {Related : β → β → Prop} {names : List α}
    {f g : α → Option β} (related : ∀ name ∈ names, Option.Rel Related (f name) (g name)) :
    List.Forall₂ Related (names.filterMap f) (names.filterMap g) := by
  induction names with
  | nil => exact .nil
  | cons name rest ih =>
    have others := ih fun other mem => related other (List.mem_cons_of_mem _ mem)
    have own := related name List.mem_cons_self
    rw [List.filterMap_cons, List.filterMap_cons]
    generalize f name = first, g name = second at own
    cases own with
    | none => exact others
    | some own => exact .cons own others

namespace Scope

/-- The fields that are filtered by under a key. -/
def keptFields (scope : Scope) (confined : Bool) (params : RawParams) (key : String) :
    List String :=
  (scope.kept confined params key).map (·.field)

/-- A name is brought to the columns under a key by a field of the one list of filtered fields that
the other list lacks: as it is, or qualified if it is the primary key of a related resource. -/
def Brings (scope : Scope) (key : String) (fields others : List String) (name : String) : Prop :=
  ∃ field ∈ fields, field ∉ others ∧ (name = field ∨ ∃ relation target,
    scope.related? key = some (relation, target) ∧ field = target.primaryKey ∧
      name = s!"{key}.{field}")

variable {scope : Scope} {confined confined' : Bool} {params : RawParams}
  {filters : OrderedMap RawValue} {key name : String}

/-- Filters have no part in what is chosen. -/
theorem chosen_filters (params : RawParams) (filters : OrderedMap RawValue) :
    scope.chosen { params with filters } = scope.chosen params := rfl

/-- Filters have no part in what is loaded. -/
theorem loaded_filters (params : RawParams) (filters : OrderedMap RawValue) :
    scope.loaded { params with filters } = scope.loaded params := rfl

/-! ## Columns of one plan and not of the other -/

/-- What is in the one list and not in the other comes from the part in which they differ. -/
theorem mem_append_or {names fields others : List String} (mem : name ∈ names ++ fields) :
    name ∈ names ++ others ∨ name ∈ fields ∧ name ∉ others := by
  by_cases common : name ∈ names ++ others
  · exact .inl common
  · rw [List.mem_append, not_or] at common
    exact .inr ⟨(List.mem_append.1 mem).resolve_left common.1, common.2⟩

/-- A name that is chosen, filtered by or a key is so for other filters, or a filter brings it. -/
theorem mem_eraseDups_or_brings {names fields others keys : List String}
    (mem : name ∈ (names ++ fields ++ keys).eraseDups) :
    name ∈ (names ++ others ++ keys).eraseDups ∨ scope.Brings key fields others name := by
  rw [List.mem_eraseDups, List.mem_append] at mem ⊢
  rcases mem with mem | joins
  · rcases mem_append_or mem with mem | ⟨filtered, absent⟩
    · exact .inl (.inl mem)
    · exact .inr ⟨name, filtered, absent, .inl rfl⟩
  · exact .inl (.inr joins)

/-- A column of the main resource is also one for other filters, or a filter brings it. -/
theorem mem_mainList_or_brings (mem : name ∈ scope.mainList confined params) :
    name ∈ scope.mainList confined' { params with filters } ∨
      scope.Brings scope.main.name (scope.keptFields confined params scope.main.name)
        (scope.keptFields confined' { params with filters } scope.main.name) name := by
  rw [mainList] at mem ⊢
  rw [chosen_filters params filters, loaded_filters params filters]
  split at mem
  case isTrue star => exact .inl (by rwa [if_pos star])
  case isFalse plain =>
    rw [if_neg plain]
    exact mem_eraseDups_or_brings mem

/-- A column of a related resource is also one for other filters, or a filter brings it. -/
theorem mem_relatedList_or_brings {relation : Relation} {target : Metadata}
    (related : scope.related? key = some (relation, target))
    (mem : name ∈ scope.relatedList confined params key relation target) :
    name ∈ scope.relatedList confined' { params with filters } key relation target ∨
      scope.Brings key (scope.keptFields confined params key)
        (scope.keptFields confined' { params with filters } key) name := by
  rw [relatedList] at mem ⊢
  rw [chosen_filters params filters]
  split at mem
  case isTrue star => exact .inl (by rwa [if_pos star])
  case isFalse plain =>
    rw [if_neg plain]
    cases kind : relation.kind with
    | toOne | toMany =>
      rw [kind] at mem
      exact mem_eraseDups_or_brings mem
    | manyToMany =>
      rw [kind, mem_renamed_iff (FieldSet.nodup_eraseDups _), List.mem_eraseDups,
        List.mem_eraseDups] at mem
      dsimp only
      rw [mem_renamed_iff (FieldSet.nodup_eraseDups _), List.mem_eraseDups, List.mem_eraseDups]
      rcases mem with ⟨mem, ne⟩ | ⟨rfl, mem⟩
      · rcases mem_append_or mem with mem | ⟨filtered, absent⟩
        · exact .inl (.inl ⟨mem, ne⟩)
        · exact .inr ⟨name, filtered, absent, .inl rfl⟩
      · -- the primary key itself is no column, but the filter on it brings its qualified name
        rcases mem_append_or mem with mem | ⟨filtered, absent⟩
        · exact .inl (.inr ⟨rfl, mem⟩)
        · refine .inr ⟨target.primaryKey, filtered, absent, .inr ?_⟩
          exact ⟨relation, target, related, rfl, rfl⟩

/-! ## The plans -/

variable {settings : Settings}

/-- The plans of two requests with different filters are alike if their columns are related. -/
theorem plan_alike {Related : String → FieldSet → FieldSet → Prop}
    (main : Related scope.main.name (.ofList (scope.mainList settings.strictFilters params))
      (.ofList (scope.mainList confined { params with filters })))
    (loaded : ∀ key ∈ scope.loaded params, ∀ relation target,
      scope.related? key = some (relation, target) → Related key
        (.ofList (scope.relatedList settings.strictFilters params key relation target))
        (.ofList (scope.relatedList confined { params with filters } key relation target)))
    (action : Action) (id : Option String) :
    (scope.plan settings params action id).Alike Related
      (scope.plan { settings with strictFilters := confined } { params with filters } action
        id) := by
  constructor
  case columns => exact main
  case eager =>
    apply forall₂_filterMap
    intro key mem
    rw [load?, load?]
    cases found : scope.related? key with
    | none => exact .none
    | some pair =>
      apply Option.Rel.some
      exact ⟨rfl, rfl, rfl, rfl, rfl, loaded key mem pair.1 pair.2 found⟩
  -- nothing else is read from the filters
  all_goals rfl

end Scope

end Retrieval
