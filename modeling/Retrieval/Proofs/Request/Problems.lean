import Retrieval.Proofs.Request.Reading
import Retrieval.Proofs.Request.Limiting

/-!
# The problems of a request

Which problems are met, pass by pass. A pass puts the problems of its keys behind those that are
there already, and the problems of a key come from what was sent under it
(`Request.foldl_problems`). So the problems of a request are one list for each pass, in the order of
the passes (`Request.unjoined_problems`, `Request.limited_problems` and `Request.read_problems`).
-/

namespace Retrieval

namespace Request

/-- A pass reports what its steps report, one after another. Every step has to keep a part of the
request on which its problems depend. -/
theorem foldl_problems {α β : Type} (step : Request → α → Request) (part : Request → β)
    (added : β → α → List Problem) (kept : ∀ s a, part (step s a) = part s)
    (each : ∀ s a, (step s a).problems = s.problems ++ added (part s) a) (l : List α)
    (s : Request) : (l.foldl step s).problems = s.problems ++ l.flatMap (added (part s)) := by
  induction l generalizing s with
  | nil => rw [List.foldl_nil, List.flatMap_nil, List.append_nil]
  | cons a rest ih =>
    rw [List.foldl_cons, ih, kept, each, List.flatMap_cons, List.append_assoc]

/-! ## The problems of each pass -/

/-- What is wrong with a sort key: its field may not be sorted by. -/
def sortProblems (main : Metadata) (key : SortKey) : List Problem :=
  if main.canSort key.field then [] else [.unknownSortField key.field]

/-- Every sort key that is refused is reported, in order. -/
theorem readSorting_problems (main : Metadata) (text : Option String) (request : Request) :
    (request.readSorting main text).problems = request.problems ++
      ((text.map SortKey.ofText).getD []).flatMap (sortProblems main) := by
  cases text with
  | none => exact (List.append_nil _).symm
  | some text =>
    refine foldl_problems (sortBy main) (fun _ => ()) (fun _ => sortProblems main)
      (fun _ _ => rfl) ?_ (SortKey.ofText text) request
    intro s key
    rw [sortBy, sortProblems]
    split
    case isTrue => exact (List.append_nil _).symm
    case isFalse => rfl

/-- What is wrong with the names sent under a key: the key is not known, or some names may not be
selected. -/
def fieldProblems (scope : Scope) (key : String) (names : List String) : List Problem :=
  if names.isEmpty then []
  else match scope.metadata? key with
    | none => [.unknownResource key]
    | some metadata => (metadata.unselectable names).map (.unknownField key)

/-- A selection reports the names under its key. -/
theorem select_problems (scope : Scope) (request : Request) (key : String) (names : List String) :
    (request.select scope key names).problems =
      request.problems ++ fieldProblems scope key names := by
  unfold select fieldProblems
  split
  case isTrue => exact (List.append_nil _).symm
  case isFalse =>
    cases scope.metadata? key with
    | none => rfl
    | some metadata =>
      unfold putFields
      dsimp only
      split <;> rfl

/-- Selections are reported key by key. -/
theorem readFields_problems (scope : Scope) (raw : OrderedMap RawValue) (request : Request) :
    (request.readFields scope raw).problems = request.problems ++
      raw.entries.flatMap fun entry => fieldProblems scope entry.1 entry.2.segments := by
  refine Eq.trans ?_ (foldl_problems
    (fun request (entry : String × RawValue) => request.select scope entry.1 entry.2.segments)
    (fun _ => ()) (fun _ entry => fieldProblems scope entry.1 entry.2.segments) (fun _ _ => rfl)
    (fun s entry => select_problems scope s entry.1 entry.2.segments) raw.entries request)
  -- what is selected in the end on the main resource is no problem
  rw [readFields, defaultMain]
  split <;> rfl

/-- What is wrong with the filters sent under a key: those that are refused. -/
def filterProblems (scope : Scope) (confined : Bool) (key : String) (value : RawValue) :
    List Problem :=
  ((filtersOf value).filter (refuses scope confined key)).map fun filter =>
    .unknownFilterField key filter.field

/-- Filters are reported key by key. -/
theorem readFilters_problems (scope : Scope) (raw : OrderedMap RawValue) (confined : Bool)
    (request : Request) :
    (request.readFilters scope raw confined).problems = request.problems ++
      raw.entries.flatMap fun entry => filterProblems scope confined entry.1 entry.2 := by
  refine foldl_problems _ (fun _ => ())
    (fun _ entry => filterProblems scope confined entry.1 entry.2) (fun _ _ => rfl) ?_ raw.entries
    request
  intro s entry
  unfold filterBy putFilters
  rw [List.partition_eq_filter_filter]
  dsimp only
  split <;> rfl

/-- What is wrong with a key that is selected: it is no relation. -/
def joinProblems (scope : Scope) (key : String) : List Problem :=
  if (scope.main.relation? key).isNone then [.unknownRelation scope.main.name key] else []

/-- Every key that is no relation is reported, whatever the order. -/
theorem foldl_join_problems (scope : Scope) (keys : List String) (request : Request) :
    (keys.foldl (join scope) request).problems =
      request.problems ++ keys.flatMap (joinProblems scope) := by
  refine foldl_problems (join scope) (fun _ => ()) (fun _ => joinProblems scope) (fun _ _ => rfl) ?_
    keys request
  intro s key
  unfold join joinProblems
  cases scope.main.relation? key with
  | none => rfl
  | some relation =>
    obtain ⟨target, kind⟩ := relation
    cases kind <;> exact (List.append_nil _).symm

theorem joinRelations_problems (scope : Scope) (request : Request) :
    (request.joinRelations scope).problems = request.problems ++
      (otherKeys scope request.fields).flatMap (joinProblems scope) :=
  foldl_join_problems scope _ request

/-- Every key of filters that leads nowhere is reported. -/
theorem resolveFilters_problems (scope : Scope) (request : Request) :
    (request.resolveFilters scope).problems = request.problems ++
      (otherKeys scope request.filters).flatMap fun key => (filterProblem? scope key).toList := by
  refine foldl_problems (dropFilters scope) (fun _ => ())
    (fun _ key => (filterProblem? scope key).toList) (fun _ _ => rfl) ?_ _ request
  intro s key
  rw [dropFilters]
  cases filterProblem? scope key with
  | none => exact (List.append_nil _).symm
  | some problem => rfl

/-- What is wrong with the limit sent under a key: the key is not selected, or the limit is no
positive count. -/
def limitProblems (main : String) (fields : OrderedMap FieldSet) (key : String) (value : RawValue) :
    List Problem :=
  match value.texts.getLast? with
  | none => []
  | some text =>
    if key = main then [.limitOnMain key]
    else if !fields.contains key then [.unknownLimit key]
    else match Text.positive? text with
      | some _ => []
      | none => [.invalidLimit key text]

/-- A limit is reported for one reason at most. -/
theorem limitBy_problems (request : Request) (key : String) (value : RawValue) :
    (request.limitBy key value).problems =
      request.problems ++ limitProblems request.resource request.fields key value := by
  unfold limitBy limitProblems
  cases value.texts.getLast? with
  | none => exact (List.append_nil _).symm
  | some text =>
    dsimp only
    split
    case isTrue => rfl
    case isFalse =>
      split
      case isTrue => rfl
      case isFalse =>
        cases Text.positive? text with
        | none => rfl
        | some limit => exact (List.append_nil _).symm

/-- Limits are reported key by key. -/
theorem readLimits_problems (raw : OrderedMap RawValue) (request : Request) :
    (request.readLimits raw).problems = request.problems ++ raw.entries.flatMap fun entry =>
      limitProblems request.resource request.fields entry.1 entry.2 := by
  -- the pass changes neither the resource nor the fields
  refine foldl_problems _ (fun s => (s.resource, s.fields))
    (fun part entry => limitProblems part.1 part.2 entry.1 entry.2) ?_ ?_ raw.entries request
  · intro s entry
    obtain ⟨limits, problems, eq⟩ := limitBy_frame s entry.1 entry.2
    rw [eq]
  · intro s entry
    exact limitBy_problems s entry.1 entry.2

/-- A parameter that is no count is reported as it was sent. -/
theorem snd_pageParam (param : PageParam) (default : UInt64) (text : Option String) :
    (pageParam param default text).2 =
      (text.filter fun text => (Text.positive? text).isNone).toList.map (.invalidPaging param) := by
  cases text with
  | none => rfl
  | some text =>
    rw [pageParam]
    cases read : Text.positive? text <;> simp [Option.filter, read]

/-- What is wrong with the page that is asked for. -/
def pageProblems (params : RawParams) : List Problem :=
  (params.page.filter fun text => (Text.positive? text).isNone).toList.map (.invalidPaging .page) ++
    (params.perPage.filter fun text => (Text.positive? text).isNone).toList.map
      (.invalidPaging .perPage)

theorem readWindow_problems (settings : Settings) (params : RawParams) (request : Request) :
    (request.readWindow settings params.page params.perPage).problems =
      request.problems ++ pageProblems params := by
  rw [pageProblems, ← snd_pageParam .page 1, ← snd_pageParam .perPage settings.defaultPerPage]
  rfl

/-! ## All problems -/

variable (scope : Scope) (settings : Settings) (params : RawParams) (action : Action)

/-- Before the joining, sort keys are reported, then selections, then filters. -/
theorem unjoined_problems : (unjoined scope settings params action).problems =
    (if action = .index then
      ((params.sorting.map SortKey.ofText).getD []).flatMap (sortProblems scope.main) else []) ++
      (params.fields.entries.flatMap fun entry => fieldProblems scope entry.1 entry.2.segments) ++
      params.filters.entries.flatMap fun entry =>
        filterProblems scope settings.strictFilters entry.1 entry.2 := by
  have first : (sorted scope params action).problems = if action = .index then
      ((params.sorting.map SortKey.ofText).getD []).flatMap (sortProblems scope.main) else [] := by
    rw [sorted]
    split
    · exact readSorting_problems scope.main params.sorting _
    · rfl
  rw [← first, ← readFields_problems, ← readFilters_problems]
  rfl

/-- Behind those come the relations, then what filters lead nowhere, then the limits. -/
theorem limited_problems : (limited scope settings params action).problems =
    (unjoined scope settings params action).problems ++
      ((otherKeys scope (unjoined scope settings params action).fields).flatMap
        (joinProblems scope)) ++
      ((otherKeys scope (unjoined scope settings params action).filters).flatMap fun key =>
        (filterProblem? scope key).toList) ++
      params.limit.entries.flatMap fun entry => limitProblems scope.main.name
        (Request.read scope settings params action).fields entry.1 entry.2 := by
  obtain ⟨limits, window, problems, read⟩ := read_frame scope settings params action
  obtain ⟨fields, problems, joined⟩ := joinRelations_frame scope
    (unjoined scope settings params action)
  have resource := read_resource scope settings params action
  have filters : ((unjoined scope settings params action).joinRelations scope).filters =
      (unjoined scope settings params action).filters := by
    rw [joined]
  rw [read] at resource ⊢
  rw [limited, readLimits_problems, resolveFilters_problems, filters, joinRelations_problems,
    ← resource]

/-- The problems of a request, in the order of the passes. -/
theorem read_problems : (Request.read scope settings params action).problems =
    (limited scope settings params action).problems ++
      if action = .index then pageProblems params else [] := by
  rw [read_eq]
  split
  case isTrue => exact readWindow_problems settings params _
  case isFalse => exact (List.append_nil _).symm

end Request

end Retrieval
