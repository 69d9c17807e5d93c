import Retrieval.Proofs.Request.FieldLists
import Retrieval.Proofs.Request.Problems

/-!
# Requests without problems

A request is read without a problem exactly when everything that was sent can be honoured
(`RawParams.Flawless`): nothing that has to be dropped goes unreported, and nothing is reported that
need not be dropped. A key that leads nowhere is reported by one of three passes. The selection
reports it if no resource of the convention is known either; if one is known and a name can be
selected there, the joining of relations reports it; and if none can, the names are reported
themselves.
-/

namespace Retrieval

/-- The name in a token of a list of sort keys, without the sign in front and the blanks at either
end. -/
def SortKey.nameOf (token : List Char) : List Char :=
  Text.trimBlanks (match token with
    | '-' :: rest | '+' :: rest | ' ' :: rest => rest
    | _ => token)

/-- Whether everything that was sent can be honoured, given the keys under which fields are selected
in the end. -/
structure RawParams.Flawless (scope : Scope) (confined : Bool) (action : Action)
    (selected : List String) (params : RawParams) : Prop where
  sorting : action = .index → ∀ text, params.sorting = some text →
    ∀ token ∈ Text.split ',' text.toList, SortKey.nameOf token ≠ [] →
      scope.main.canSort (String.ofList (SortKey.nameOf token))
  fields : ∀ key, params.sentNames key ≠ [] → ∃ metadata, scope.resource? key = some metadata ∧
    (wildcard ∈ params.sentNames key ∨ ∀ name ∈ params.sentNames key, metadata.canSelect name)
  filters : ∀ key, params.spelledFilters key ≠ [] →
    ∃ metadata, scope.resource? key = some metadata ∧
      (confined → ∀ filter ∈ params.spelledFilters key, metadata.canSelect filter.field)
  /-- Every key with a limit is a relation that is selected, and its last limit is a count. -/
  limits : ∀ key text, params.lastLimit key = some text →
    key ≠ scope.main.name ∧ key ∈ selected ∧ ∃ n, Text.WritesCount text n
  page : action = .index → ∀ text, params.page = some text ∨ params.perPage = some text →
    ∃ n, Text.WritesCount text n

namespace Request

variable {scope : Scope} {params : RawParams} {key : String}

/-! ## Sort keys -/

/-- A token spells a sort key for the name in it, unless there is none. -/
theorem map_field_ofPiece? (token : List Char) : (SortKey.ofPiece? token).map (·.field) =
    if SortKey.nameOf token = [] then none else some (String.ofList (SortKey.nameOf token)) := by
  unfold SortKey.nameOf
  split
  case h_1 rest | h_2 rest | h_3 rest =>
    simp only [SortKey.ofPiece?]
    cases Text.trimBlanks rest <;> rfl
  case h_4 minus plus space =>
    -- a token without a sign is a name as it is
    unfold SortKey.ofPiece?
    split
    next direction name eq =>
      split at eq
      · exact absurd rfl (minus _)
      · exact absurd rfl (plus _)
      · exact absurd rfl (space _)
      · obtain ⟨rfl, rfl⟩ := Prod.mk.inj eq
        cases Text.trimBlanks token <;> rfl

/-- Sort keys are flawless just when each has a field that may be sorted by. -/
theorem sortProblems_eq_nil_iff (main : Metadata) (text : String) :
    (SortKey.ofText text).flatMap (sortProblems main) = [] ↔
      ∀ token ∈ Text.split ',' text.toList, SortKey.nameOf token ≠ [] →
        main.canSort (String.ofList (SortKey.nameOf token)) := by
  have allowed (key : SortKey) : sortProblems main key = [] ↔ main.canSort key.field := by
    rw [sortProblems]
    split <;> simp [*]
  simp only [List.flatMap_eq_nil_iff, SortKey.ofText, List.mem_filterMap, allowed]
  constructor
  · intro every token mem some
    -- a token has a key just where it has a name, and the key has that name
    have field := map_field_ofPiece? token
    rw [if_neg some, Option.map_eq_some_iff] at field
    obtain ⟨key, spelled, eq⟩ := field
    exact eq ▸ every key ⟨token, mem, spelled⟩
  · rintro every key ⟨token, mem, spelled⟩
    have field := map_field_ofPiece? token
    rw [spelled, Option.map_some] at field
    split at field
    case isTrue => exact absurd field (Option.some_ne_none _)
    case isFalse some => exact Option.some.inj field ▸ every token mem some

/-! ## Fields -/

/-- A selection is flawless just when its key leads somewhere and there is a star or every name may
be selected. -/
theorem fieldProblems_eq_nil_iff {names : List String} : fieldProblems scope key names = [] ↔
    (names ≠ [] → ∃ metadata, scope.metadata? key = some metadata ∧
      (wildcard ∈ names ∨ ∀ name ∈ names, metadata.canSelect name)) := by
  have allowed (metadata : Metadata) : metadata.unselectable names = [] ↔
      wildcard ∈ names ∨ ∀ name ∈ names, metadata.canSelect name := by
    rw [Metadata.unselectable]
    split
    case isTrue star => simp [List.contains_iff_mem.1 star]
    case isFalse plain =>
      have plain : wildcard ∉ names := mt List.contains_iff_mem.2 plain
      simp [plain]
  rw [fieldProblems]
  split
  case isTrue none => simp [List.isEmpty_iff.1 none]
  case isFalse some =>
    have some : names ≠ [] := fun none => some (List.isEmpty_iff.2 none)
    cases scope.metadata? key with
    | none => simp [some]
    | some metadata => simp [some, allowed]

/-- Names without a problem choose something. -/
theorem chosen_ne_nil {metadata : Metadata} {names : List String} (some : names ≠ [])
    (h : wildcard ∈ names ∨ ∀ name ∈ names, metadata.canSelect name) :
    metadata.chosen names ≠ [] := by
  rw [Metadata.chosen]
  split
  case isTrue => exact metadata.allowed_ne_nil
  case isFalse plain =>
    rw [List.filter_eq_self.2 (h.resolve_left plain)]
    exact some

/-- Names select something just when their key leads to a resource on which they choose something.
-/
theorem isSome_selection?_iff {names : List String} : (selection? scope key names).isSome ↔
    ∃ metadata, scope.metadata? key = some metadata ∧ metadata.chosen names ≠ [] := by
  rw [selection?]
  cases scope.metadata? key with
  | none => simp
  | some metadata =>
    simp [Option.filter, Metadata.select_eq, FieldSet.isEmpty_ofList]

/-- The names of a value are those that were sent under its key. -/
theorem segments_of_find? {value : RawValue} (sent : params.fields.find? key = some value) :
    value.segments = params.sentNames key := by
  rw [RawValue.segments_eq, RawParams.sentNames, RawParams.commaNames, sent, Option.map_some,
    Option.getD_some]

/-- Without a value nothing was sent. -/
theorem sentNames_of_none (h : params.fields.find? key = none) : params.sentNames key = [] := by
  rw [RawParams.sentNames, RawParams.commaNames, h]
  rfl

/-- Under a relation stands what the names sent for it select. -/
theorem selected?_of_ne (relational : key ≠ scope.main.name) :
    selected? scope params key = selection? scope key (params.sentNames key) := by
  rw [selected?, if_neg relational, Option.or_none]
  cases sent : params.fields.find? key with
  | none =>
    rw [sentNames_of_none sent, selection?]
    cases scope.metadata? key <;> rfl
  | some value => rw [Option.bind_some, segments_of_find? sent]

/-- The selection reports nothing when it has nothing to report of any key. -/
theorem selectionProblems_eq_nil_iff :
    (params.fields.entries.flatMap fun entry => fieldProblems scope entry.1 entry.2.segments) = [] ↔
      ∀ key, fieldProblems scope key (params.sentNames key) = [] := by
  rw [List.flatMap_eq_nil_iff]
  refine (params.fields.forall_mem_entries_iff fun key value =>
    fieldProblems scope key value.segments = []).trans (forall_congr' fun key => ?_)
  cases sent : params.fields.find? key with
  | none => simp [sentNames_of_none sent, fieldProblems]
  | some value => simp [segments_of_find? sent]

/-- Joining is flawless just for relations. -/
theorem joinProblems_eq_nil_iff :
    joinProblems scope key = [] ↔ (scope.main.relation? key).isSome := by
  rw [joinProblems]
  cases scope.main.relation? key <;> simp

/-- The names sent for fields are in order exactly when neither the selection nor the joining of
relations reports a problem. -/
theorem fields_eq_nil_iff (settings : Settings) (action : Action) :
    (params.fields.entries.flatMap fun entry => fieldProblems scope entry.1 entry.2.segments) = [] ∧
      (otherKeys scope (unjoined scope settings params action).fields).flatMap
        (joinProblems scope) = [] ↔
    ∀ key, params.sentNames key ≠ [] → ∃ metadata, scope.resource? key = some metadata ∧
      (wildcard ∈ params.sentNames key ∨
        ∀ name ∈ params.sentNames key, metadata.canSelect name) := by
  rw [selectionProblems_eq_nil_iff, List.flatMap_eq_nil_iff]
  simp only [joinProblems_eq_nil_iff, mem_otherKeys_unjoined]
  constructor
  · rintro ⟨known, joined⟩ key some
    obtain ⟨metadata, found, allowed⟩ := fieldProblems_eq_nil_iff.1 (known key) some
    refine ⟨metadata, ?_, allowed⟩
    by_cases main : key = scope.main.name
    · subst main
      exact Scope.resource?_main.trans (Scope.metadata?_of_resource? Scope.resource?_main ▸ found)
    · -- something is selected under the key, so it would be reported if it were no relation
      have selected : (selected? scope params key).isSome := by
        rw [selected?_of_ne main]
        exact isSome_selection?_iff.2 ⟨metadata, found, chosen_ne_nil some allowed⟩
      obtain ⟨relation, declared⟩ := Option.isSome_iff_exists.1 (joined key ⟨selected, main⟩)
      exact Scope.resource?_of_related? main (Scope.related?_of_metadata? main declared found)
  · intro every
    refine ⟨fun key => fieldProblems_eq_nil_iff.2 fun some => ?_, fun key mem => ?_⟩
    · obtain ⟨metadata, leads, allowed⟩ := every key some
      exact ⟨metadata, Scope.metadata?_of_resource? leads, allowed⟩
    · obtain ⟨selected, relational⟩ := mem
      rw [selected?_of_ne relational] at selected
      obtain ⟨known, found, chosen⟩ := isSome_selection?_iff.1 selected
      have some : params.sentNames key ≠ [] := by
        intro none
        rw [none] at chosen
        exact chosen rfl
      obtain ⟨metadata, leads, -⟩ := every key some
      rw [Scope.resource?_of_ne relational] at leads
      obtain ⟨⟨relation, target⟩, related, -⟩ := Option.map_eq_some_iff.1 leads
      rw [(Scope.related?_eq_some_iff.1 related).1, Option.isSome_some]

/-! ## Filters -/

/-- Under a key stand the filters that were sent for it and are not refused, if there are any. -/
theorem isSome_sentFilters?_iff (confined : Bool) :
    (sentFilters? scope confined params key).isSome ↔
      (params.spelledFilters key).filter (!refuses scope confined key ·) ≠ [] := by
  rw [sentFilters?_eq_ite]
  split
  case isTrue none => simp [none]
  case isFalse some => simp [some]

/-- The filters that are resolved are those sent under other keys than the main one. -/
theorem mem_otherKeys_filters_iff (settings : Settings) (action : Action) :
    key ∈ otherKeys scope (unjoined scope settings params action).filters ↔
      (sentFilters? scope settings.strictFilters params key).isSome ∧ key ≠ scope.main.name := by
  rw [mem_otherKeys_iff, OrderedMap.mem_keys_iff, unjoined_filters, Option.isSome_iff_exists]

/-- The reading of filters reports nothing when it refuses none. -/
theorem filteringProblems_eq_nil_iff (confined : Bool) :
    (params.filters.entries.flatMap fun entry =>
        filterProblems scope confined entry.1 entry.2) = [] ↔
      ∀ key, ∀ filter ∈ params.spelledFilters key, refuses scope confined key filter = false := by
  rw [List.flatMap_eq_nil_iff]
  refine (params.filters.forall_mem_entries_iff fun key value =>
    filterProblems scope confined key value = []).trans (forall_congr' fun key => ?_)
  cases sent : params.filters.find? key with
  | none => simp [spelledFilters_of_none sent]
  | some value => simp [filterProblems, filtersOf_of_find? sent]

/-- The filters that were sent are in order exactly when neither their reading nor the resolution of
their targets reports a problem. -/
theorem filters_eq_nil_iff (settings : Settings) (action : Action) :
    (params.filters.entries.flatMap fun entry =>
        filterProblems scope settings.strictFilters entry.1 entry.2) = [] ∧
      ((otherKeys scope (unjoined scope settings params action).filters).flatMap fun key =>
        (filterProblem? scope key).toList) = [] ↔
    ∀ key, params.spelledFilters key ≠ [] → ∃ metadata, scope.resource? key = some metadata ∧
      (settings.strictFilters →
        ∀ filter ∈ params.spelledFilters key, metadata.canSelect filter.field) := by
  rw [filteringProblems_eq_nil_iff, List.flatMap_eq_nil_iff]
  simp only [Option.toList_eq_nil_iff, mem_otherKeys_filters_iff, isSome_sentFilters?_iff]
  constructor
  · rintro ⟨allowed, resolved⟩ key spelled
    obtain ⟨metadata, leads⟩ : ∃ metadata, scope.resource? key = some metadata := by
      by_cases main : key = scope.main.name
      · exact ⟨scope.main, main ▸ Scope.resource?_main⟩
      · -- no filter is refused, so the key has filters when their targets are resolved
        have kept : (params.spelledFilters key).filter
            (!refuses scope settings.strictFilters key ·) = params.spelledFilters key :=
          List.filter_eq_self.2 fun filter mem => by rw [allowed key filter mem, Bool.not_false]
        refine (filterProblem?_eq_none_iff main).1 (resolved key ⟨?_, main⟩)
        rw [kept]
        exact spelled
    refine ⟨metadata, leads, fun confined filter mem => ?_⟩
    have unrefused := allowed key filter mem
    rw [refuses_of_resource? leads, confined, Bool.true_and, Bool.not_eq_false'] at unrefused
    exact unrefused
  · intro every
    refine ⟨fun key filter mem => ?_, fun key kept => ?_⟩
    · obtain ⟨metadata, leads, allowed⟩ := every key (List.ne_nil_of_mem mem)
      rw [refuses_of_resource? leads, Bool.and_eq_false_iff, Bool.not_eq_false']
      cases confined : settings.strictFilters with
      | false => exact .inl rfl
      | true => exact .inr (allowed confined filter mem)
    · obtain ⟨kept, relational⟩ := kept
      have spelled : params.spelledFilters key ≠ [] := by
        intro none
        rw [none] at kept
        exact kept rfl
      obtain ⟨metadata, leads, -⟩ := every key spelled
      exact (filterProblem?_eq_none_iff relational).2 ⟨metadata, leads⟩

/-! ## Limits and the page -/

/-- A limit is in order if its key is selected, the main resource apart, and it is a count. -/
theorem limitProblems_eq_nil_iff {main : String} {fields : OrderedMap FieldSet} {value : RawValue} :
    limitProblems main fields key value = [] ↔ ∀ text, value.texts.getLast? = some text →
      key ≠ main ∧ key ∈ fields.keys ∧ ∃ n, Text.WritesCount text n := by
  unfold limitProblems
  cases value.texts.getLast? with
  | none => simp
  | some text =>
    simp only [Option.some.injEq, forall_eq', ← Text.isSome_positive?_iff, ← OrderedMap.contains_iff]
    by_cases main : key = main
    · simp [main]
    · cases fields.contains key <;> cases Text.positive? text <;> simp [main]

/-- Limits are flawless just when the last one of every key is a count, and the key has fields and
is not the main one. -/
theorem limits_eq_nil_iff {main : String} {fields : OrderedMap FieldSet} :
    (params.limit.entries.flatMap fun entry => limitProblems main fields entry.1 entry.2) = [] ↔
      ∀ key text, params.lastLimit key = some text →
        key ≠ main ∧ key ∈ fields.keys ∧ ∃ n, Text.WritesCount text n := by
  rw [List.flatMap_eq_nil_iff]
  refine (params.limit.forall_mem_entries_iff fun key value =>
    limitProblems main fields key value = []).trans (forall_congr' fun key => ?_)
  rw [RawParams.lastLimit]
  cases params.limit.find? key with
  | none => simp
  | some value => simp [limitProblems_eq_nil_iff]

/-- A page is flawless just when number and size are counts where they are given. -/
theorem pageProblems_eq_nil_iff : pageProblems params = [] ↔ ∀ text,
    params.page = some text ∨ params.perPage = some text → ∃ n, Text.WritesCount text n := by
  have one (param : PageParam) (sent : Option String) :
      (sent.filter fun text => (Text.positive? text).isNone).toList.map
        (Problem.invalidPaging param) = [] ↔
          ∀ text, sent = some text → ∃ n, Text.WritesCount text n := by
    cases sent with
    | none => simp
    | some text =>
      simp only [Option.some.injEq, forall_eq', ← Text.isSome_positive?_iff]
      cases read : Text.positive? text <;> simp [Option.filter, read]
  rw [pageProblems, List.append_eq_nil_iff, one, one]
  simp only [or_imp, forall_and]

/-! ## The whole request -/

/-- A request is read without a problem exactly when everything that was sent can be honoured. -/
theorem problems_eq_nil_iff (settings : Settings) (action : Action) :
    (Request.read scope settings params action).problems = [] ↔
      params.Flawless scope settings.strictFilters action
        (Request.read scope settings params action).fields.keys := by
  have listed (problems : List Problem) :
      (if action = .index then problems else []) = [] ↔ (action = .index → problems = []) := by
    split <;> simp [*]
  have sorting : (((params.sorting.map SortKey.ofText).getD []).flatMap
      (sortProblems scope.main)) = [] ↔ ∀ text, params.sorting = some text →
        ∀ token ∈ Text.split ',' text.toList, SortKey.nameOf token ≠ [] →
          scope.main.canSort (String.ofList (SortKey.nameOf token)) := by
    cases params.sorting with
    | none => simp
    | some text => simpa using sortProblems_eq_nil_iff scope.main text
  -- all problems are one list, so there is none just when no pass has any
  rw [read_problems, limited_problems, unjoined_problems]
  simp only [List.append_eq_nil_iff, listed, sorting, limits_eq_nil_iff, pageProblems_eq_nil_iff]
  constructor
  · rintro ⟨⟨⟨⟨⟨⟨sorting, fields⟩, filters⟩, joined⟩, resolved⟩, limits⟩, page⟩
    exact ⟨sorting, (fields_eq_nil_iff settings action).1 ⟨fields, joined⟩,
      (filters_eq_nil_iff settings action).1 ⟨filters, resolved⟩, limits, page⟩
  · rintro ⟨sorting, fields, filters, limits, page⟩
    obtain ⟨fields, joined⟩ := (fields_eq_nil_iff settings action).2 fields
    obtain ⟨filters, resolved⟩ := (filters_eq_nil_iff settings action).2 filters
    exact ⟨⟨⟨⟨⟨⟨sorting, fields⟩, filters⟩, joined⟩, resolved⟩, limits⟩, page⟩

end Request

/-! ## Conversions -/

namespace Converter

/-- The problems of a conversion are complete and never spurious: there is none exactly when
everything that was sent can be honoured. -/
theorem problems_of_convert {converter : Converter} {resourceType : String} {params : RawParams}
    {action : Action} {id : Option String} {conversion : Conversion}
    (h : converter.convert resourceType params action id = .ok conversion) :
    ∃ scope, converter.scope resourceType = .ok scope ∧
      (conversion.request.problems = [] ↔ params.Flawless scope converter.settings.strictFilters
        action conversion.request.fields.keys) := by
  obtain ⟨scope, found, -, rfl⟩ := convert_eq_ok_iff.1 h
  exact ⟨scope, found, Request.problems_eq_nil_iff converter.settings action⟩

/-- A request with nothing to report: a star excuses the other names, empty names are passed over,
and a limit may have a sign and blanks. In the request for everything, three things are reported. -/
theorem problems_of_convert_blog :
    let params : RawParams := { RawParams.empty with
      fields := ⟨[("comments", .one "body,"), ("post", .one "secret,*")], by decide⟩
      filters := ⟨[("post", .many ["id > 3", "no filter"])], by decide⟩
      limit := ⟨[("comments", .many ["no limit", " +5"])], by decide⟩
      sorting := some "-title,,", page := some "2" }
    ∃ scope, Example.strict.scope "Post" = .ok scope ∧
      (∃ conversion, Example.strict.convert "Post" params .index none = .ok conversion ∧
        params.Flawless scope true .index conversion.request.fields.keys) ∧
      ∃ conversion, Example.strict.convert "Post" Example.everything .index none = .ok conversion ∧
        conversion.request.problems = [.unknownSortField "secret", .unknownField "comments" "id",
          .unknownFilterField "post" "secret"] ∧
        ¬Example.everything.Flawless scope true .index conversion.request.fields.keys := by
  intro params
  obtain ⟨conversion, converted, clean⟩ : ∃ conversion, Example.strict.convert "Post" params .index
      none = .ok conversion ∧ conversion.request.problems = [] := ⟨_, rfl, by decide +kernel⟩
  obtain ⟨other, converted', reported⟩ : ∃ conversion, Example.strict.convert "Post"
      Example.everything .index none = .ok conversion ∧ conversion.request.problems =
        [.unknownSortField "secret", .unknownField "comments" "id",
          .unknownFilterField "post" "secret"] := ⟨_, rfl, by decide +kernel⟩
  obtain ⟨scope, found, complete⟩ := problems_of_convert converted
  obtain ⟨scope', found', complete'⟩ := problems_of_convert converted'
  obtain rfl : scope = scope' := Except.ok.inj (found.symm.trans found')
  refine ⟨scope, found, ⟨conversion, converted, complete.1 clean⟩, other, converted', reported, ?_⟩
  intro flawless
  rw [complete'.2 flawless] at reported
  exact List.cons_ne_nil _ _ reported.symm

end Converter

end Retrieval
