import Retrieval.Proofs.Plan.Content

/-!
# Relations do not interfere

All relations of a request write into one list of columns, that of the main resource, and a relation
may add the very column that another one or a filter adds. Still, what is sent for one relation is
seen only in the parts of the plan that are about it, and in the key that it adds to the main list:
two requests that differ in nothing else have plans that agree beside the relation
(`Scope.plan_agreeBeside`).

Every part of a plan is listed name by name. So the parts are compared by one lemma about listings
(`filter_flatMap_beside`): taking out what stands under one name leaves what stands under the other
names.
-/

namespace Retrieval

/-- Whether two requests send the same, what they send for one key apart. -/
structure RawParams.AgreeBeside (key : String) (params others : RawParams) : Prop where
  fields : params.fields.erase key = others.fields.erase key
  filters : params.filters.erase key = others.filters.erase key
  limit : params.limit.erase key = others.limit.erase key
  sorting : params.sorting = others.sorting
  page : params.page = others.page
  perPage : params.perPage = others.perPage

/-- The relation that a condition is on, if it is not on the main row itself. -/
def Predicate.relation? : Predicate → Option String
  | .filter _ => none
  | .related key .. => some key

/-- Whether two plans agree beside a relation, given the keys that it adds to the main resource. -/
structure Plan.AgreeBeside (key : String) (keys : List String) (plan other : Plan) : Prop where
  columns : plan.columns.toList.filter (· ∉ keys) = other.columns.toList.filter (· ∉ keys)
  eager : plan.eager.filter (·.relation ≠ key) = other.eager.filter (·.relation ≠ key)
  predicates : plan.predicates.filter (·.relation? ≠ some key) =
    other.predicates.filter (·.relation? ≠ some key)
  sort : plan.sort = other.sort
  lookup : plan.lookup = other.lookup
  window : plan.window = other.window

/-! ## Listings -/

/-- Taking a name out of a listing that has nothing under it leaves the listing. -/
theorem flatMap_filter_ne {α : Type} (listed : String → List α) {key : String}
    (none : listed key = []) (names : List String) :
    (names.filter (· ≠ key)).flatMap listed = names.flatMap listed := by
  induction names with
  | nil => rfl
  | cons name rest ih =>
    by_cases own : name = key
    · rw [List.filter_cons_of_neg (by simpa using own), ih, List.flatMap_cons, own, none,
        List.nil_append]
    · rw [List.filter_cons_of_pos (by simpa using own), List.flatMap_cons, List.flatMap_cons, ih]

/-- Two listings agree beside one name if they list the same under all other names and everything
under that one is taken out. -/
theorem filter_flatMap_beside {α : Type} {key : String} {names others : List String}
    {listed listed' : String → List α} {p : α → Bool}
    (names_eq : names.filter (· ≠ key) = others.filter (· ≠ key))
    (listed_eq : ∀ name, name ≠ key → listed name = listed' name)
    (own : ∀ a ∈ listed key, p a = false) (own' : ∀ a ∈ listed' key, p a = false) :
    (names.flatMap listed).filter p = (others.flatMap listed').filter p := by
  -- what stands under the key itself is filtered out on both sides
  have nothing {under : List α} (every : ∀ a ∈ under, p a = false) : under.filter p = [] := by
    rw [List.filter_eq_nil_iff]
    intro a mem
    rw [every a mem]
    exact Bool.false_ne_true
  rw [List.filter_flatMap, List.filter_flatMap,
    ← flatMap_filter_ne (fun name => (listed name).filter p) (nothing own),
    ← flatMap_filter_ne (fun name => (listed' name).filter p) (nothing own'), names_eq]
  refine List.flatMap_congr fun name mem => ?_
  rw [listed_eq name (of_decide_eq_true (List.mem_filter.1 mem).2)]

/-! ## What is said under the other keys -/

/-- Maps that are the same without a key agree under all others. -/
theorem OrderedMap.find?_of_erase {α : Type} {m other : OrderedMap α} {key name : String}
    (same : m.erase key = other.erase key) (ne : name ≠ key) : m.find? name = other.find? name := by
  have found := congrArg (·.find? name) same
  simpa [ne] using found

namespace Scope

variable {scope : Scope} {confined : Bool} {key name : String} {params others : RawParams}
  (same : params.AgreeBeside key others)
include same

/-- What is chosen under another key is the same. -/
theorem chosen_beside (ne : name ≠ key) : scope.chosen params name = scope.chosen others name := by
  rw [chosen, chosen, RawParams.commaNames, RawParams.commaNames,
    OrderedMap.find?_of_erase same.fields ne]

/-- The filters that are kept under another key are the same. -/
theorem kept_beside (ne : name ≠ key) :
    scope.kept confined params name = scope.kept confined others name := by
  rw [kept, kept, RawParams.spelledFilters, RawParams.spelledFilters,
    OrderedMap.find?_of_erase same.filters ne]

/-- The other relations that are loaded are the same. -/
theorem loaded_beside :
    (scope.loaded params).filter (· ≠ key) = (scope.loaded others).filter (· ≠ key) := by
  rw [loaded, loaded, List.filter_filter, List.filter_filter]
  refine List.filter_congr fun name _ => ?_
  by_cases own : name = key
  · simp [own]
  · rw [chosen_beside same own]

/-- Another relation is loaded alike. -/
theorem load?_beside (ne : name ≠ key) :
    scope.load? confined params name = scope.load? confined others name := by
  have limit : params.lastLimit name = others.lastLimit name := by
    rw [RawParams.lastLimit, RawParams.lastLimit, OrderedMap.find?_of_erase same.limit ne]
  rw [load?, load?, limit]
  simp only [relatedList, chosen_beside same ne, kept_beside same ne]

/-- Another key has the same conditions. -/
theorem keptConditions_beside (ne : name ≠ key) :
    scope.keptConditions confined params name = scope.keptConditions confined others name := by
  rw [keptConditions, keptConditions, kept_beside same ne]

/-! ## Parts of the plan -/

/-- The lists of the main resource differ by keys of the relation only. -/
theorem mainList_beside (relational : key ≠ scope.main.name) :
    (scope.mainList confined params).filter (· ∉ Request.mainKeys scope key) =
      (scope.mainList confined others).filter (· ∉ Request.mainKeys scope key) := by
  rw [mainList, mainList, chosen_beside same relational.symm, kept_beside same relational.symm]
  split
  case isTrue => rfl
  case isFalse =>
    -- the keys of the relation come last, among those of the other ones
    rw [FieldSet.filter_eraseDups, FieldSet.filter_eraseDups, List.filter_append,
      List.filter_append _ (List.flatMap _ _)]
    rw [filter_flatMap_beside (loaded_beside same) (fun _ _ => rfl)]
    all_goals
      intro name mem
      exact decide_eq_false (not_not_intro mem)

/-- All other relations are loaded alike, in the same order. -/
theorem eager_beside :
    ((scope.loaded params).filterMap (scope.load? confined params)).filter (·.relation ≠ key) =
      ((scope.loaded others).filterMap (scope.load? confined others)).filter
        (·.relation ≠ key) := by
  rw [List.filterMap_eq_flatMap_toList, List.filterMap_eq_flatMap_toList]
  apply filter_flatMap_beside (loaded_beside same)
  · intro name ne
    rw [load?_beside same ne]
  -- what is loaded under the key is the relation of the key
  all_goals
    intro load mem
    rw [relation_of_load? (Option.mem_toList.1 mem)]
    exact decide_eq_false (not_not_intro rfl)

omit same in
/-- The conditions of the filters under a relation are on that relation. -/
theorem relation?_of_mem_keptConditions (relational : key ≠ scope.main.name) {predicate : Predicate}
    (mem : predicate ∈ scope.keptConditions confined params key) :
    predicate.relation? = some key := by
  rw [keptConditions, if_neg relational] at mem
  split at mem
  · exact absurd mem List.not_mem_nil
  · split at mem
    · exact absurd mem List.not_mem_nil
    · rw [List.mem_singleton.1 mem]
      rfl

/-- All other conditions are the same, in the same order. -/
theorem predicates_beside (relational : key ≠ scope.main.name) :
    (params.filters.keys.flatMap (scope.keptConditions confined params)).filter
        (·.relation? ≠ some key) =
      (others.filters.keys.flatMap (scope.keptConditions confined others)).filter
        (·.relation? ≠ some key) := by
  have names := congrArg OrderedMap.keys same.filters
  rw [OrderedMap.keys_erase, OrderedMap.keys_erase] at names
  apply filter_flatMap_beside names
  · intro name ne
    exact keptConditions_beside same ne
  -- the conditions under the key are on the relation of the key
  all_goals
    intro predicate mem
    rw [relation?_of_mem_keptConditions relational mem]
    exact decide_eq_false (not_not_intro rfl)

/-- The plans of two requests that send the same beside one relation agree beside it. -/
theorem plan_agreeBeside (relational : key ≠ scope.main.name) (settings : Settings)
    (action : Action) (id : Option String) :
    (scope.plan settings params action id).AgreeBeside key (Request.mainKeys scope key)
      (scope.plan settings others action id) := by
  constructor
  case columns =>
    rw [plan, plan, FieldSet.toList_ofList, FieldSet.toList_ofList, FieldSet.filter_eraseDups,
      FieldSet.filter_eraseDups, mainList_beside same relational]
  case eager => exact eager_beside same
  case predicates =>
    rw [plan, plan]
    dsimp only
    split
    case isTrue => exact predicates_beside same relational
    case isFalse => rfl
  case sort => rw [plan, plan, same.sorting]
  case lookup => rfl
  case window => rw [plan, plan, Request.windowOf, Request.windowOf, same.page, same.perPage]

end Scope

/-! ## Conversions -/

namespace Converter

/-- What a request sends for one relation changes a conversion only in that relation and its keys:
the other relations, the conditions, the order and the page stay as they are. -/
theorem agreeBeside_of_scope {converter : Converter} {resourceType key : String} {scope : Scope}
    {params others : RawParams} (found : converter.scope resourceType = .ok scope)
    (relational : key ≠ scope.main.name) (same : params.AgreeBeside key others) (action : Action)
    (id : Option String) :
    Except.Agree (fun conversion other =>
        conversion.plan.AgreeBeside key (Request.mainKeys scope key) other.plan)
      (converter.convert resourceType params action id)
      (converter.convert resourceType others action id) := by
  refine agree_convert rfl fun scope' found' => ?_
  obtain rfl : scope = scope' := Except.ok.inj (found.symm.trans found')
  exact Scope.plan_agreeBeside same relational converter.settings action id

/-- Tags are loaded or not. The primary key of posts goes with them, and nothing else. -/
theorem agreeBeside_of_scope_blog :
    let others : RawParams := { RawParams.empty with
      fields := ⟨[("author", .one "*"), ("post", .one "title")], by decide⟩
      filters := ⟨[("comments", .one "body = x"), ("post", .one "title = x")], by decide⟩ }
    let params : RawParams := { others with
      fields := others.fields.insert "tags" (.one "label,id")
      filters := others.filters.insert "tags" (.one "label = lean")
      limit := others.limit.insert "tags" (.one "3") }
    ∃ scope, Example.strict.scope "Post" = .ok scope ∧ "tags" ≠ scope.main.name ∧
      params.AgreeBeside "tags" others ∧ Request.mainKeys scope "tags" = ["id"] ∧
      ∃ conversion other, Example.strict.convert "Post" params .index none = .ok conversion ∧
        Example.strict.convert "Post" others .index none = .ok other ∧
        conversion.plan.columns.toList = ["title", "author_id", "id"] ∧
        other.plan.columns.toList = ["title", "author_id"] ∧
        conversion.plan.AgreeBeside "tags" ["id"] other.plan := by
  intro others params
  have same : params.AgreeBeside "tags" others :=
    ⟨by decide, by decide, by decide, rfl, rfl, rfl⟩
  obtain ⟨scope, found, relational, keys⟩ : ∃ scope, Example.strict.scope "Post" = .ok scope ∧
      "tags" ≠ scope.main.name ∧ Request.mainKeys scope "tags" = ["id"] :=
    ⟨_, rfl, by decide, by decide⟩
  obtain ⟨conversion, converted, columns⟩ : ∃ conversion,
      Example.strict.convert "Post" params .index none = .ok conversion ∧
        conversion.plan.columns.toList = ["title", "author_id", "id"] :=
    ⟨_, rfl, by decide +kernel⟩
  obtain ⟨other, converted', columns'⟩ : ∃ other,
      Example.strict.convert "Post" others .index none = .ok other ∧
        other.plan.columns.toList = ["title", "author_id"] :=
    ⟨_, rfl, by decide +kernel⟩
  have agree := agreeBeside_of_scope found relational same .index none
  rw [converted, converted', keys] at agree
  cases agree with
  | ok agree =>
    exact ⟨scope, found, relational, same, keys, conversion, other, converted, converted', columns,
      columns', agree⟩

end Converter

end Retrieval
