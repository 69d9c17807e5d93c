import Retrieval.Proofs.Request.FieldLists
import Retrieval.Proofs.Request.Problems

/-!
# Passes run again, and in another order

Reading a request ends with passes that complete what was sent: the fields of filters are selected,
the keys of relations are joined, and filters that lead nowhere are dropped. Each of them may be run
again without an effect.

Relations are joined in the order of their names, but the order does not matter. Under a relation
stands what its own step leaves. The main resource keeps what it had in front and gains the same
keys, and the same problems are met (`Request.joinsAlike_of_perm`).

`Request.Pass` lists the passes of a conversion (`Request.read_eq_run`). Along any run of them only
the joining of relations drops a selection, and none drops that of the main resource
(`Request.mem_keys_run`).
-/

namespace Retrieval

namespace Request

/-! ## Adding fields again -/

/-- Adding names to a selection with a star adds nothing. -/
theorem mem_extend {fields : FieldSet} {names : List String} {name : String} :
    name ∈ extend fields names ↔ name ∈ fields ∨ wildcard ∉ fields ∧ name ∈ names := by
  simp only [FieldSet.mem_iff, toList_extend]
  split
  case isTrue star => exact ⟨.inl, fun h => h.resolve_right fun added => added.1 star⟩
  case isFalse plain =>
    rw [List.mem_eraseDups, List.mem_append]
    exact or_congr .rfl (and_iff_right plain).symm

/-- The fields that were there stay in front. -/
theorem prefix_extend (fields : FieldSet) (names : List String) :
    fields.toList <+: (extend fields names).toList := by
  rw [toList_extend]
  split
  · exact List.prefix_rfl
  · rw [List.eraseDups_append, eraseDups_of_nodup fields.nodup]
    exact List.prefix_append _ _

/-- Fields that are there already are not added. -/
theorem extend_eq_self {fields : FieldSet} {names : List String}
    (h : wildcard ∉ fields → ∀ name ∈ names, name ∈ fields) : extend fields names = fields := by
  obtain ⟨added, eq⟩ := prefix_extend fields names
  cases added with
  | nil => exact FieldSet.ext (eq.symm.trans (List.append_nil _))
  | cons name rest =>
    -- a name that is added would be there twice
    have nodup := (extend fields names).nodup
    rw [← eq, List.nodup_append] at nodup
    have mem : name ∈ extend fields names := by
      rw [FieldSet.mem_iff, ← eq]
      simp
    have old : name ∈ fields := (mem_extend.1 mem).elim id fun new => h new.1 name new.2
    exact absurd rfl (nodup.2.2 name old name List.mem_cons_self)

/-- Names that were added before add nothing. -/
theorem extend_extend_of_subset {fields : FieldSet} {names others : List String}
    (within : others ⊆ names) : extend (extend fields names) others = extend fields names := by
  refine extend_eq_self fun plain name mem => mem_extend.2 (.inr ⟨fun star => ?_, within mem⟩)
  exact plain (mem_extend.2 (.inl star))

/-- Adding names in another order adds the same names. -/
theorem extend_perm {names others : List String} (perm : names.Perm others) (fields : FieldSet) :
    (extend fields names).toList.Perm (extend fields others).toList := by
  refine (List.perm_ext_iff_of_nodup (extend fields names).nodup (extend fields others).nodup).2 ?_
  intro name
  exact mem_extend.trans ((or_congr .rfl (and_congr .rfl perm.mem_iff)).trans mem_extend.symm)

/-! ## Passes run again -/

/-- The key behind the name of the relation is another name, so the plain key is gone. -/
theorem not_mem_qualifyKey (relation primaryKey : String) (fields : FieldSet) :
    primaryKey ∉ qualifyKey relation primaryKey fields := by
  rw [qualifyKey]
  split
  case isTrue =>
    rw [FieldSet.mem_ensure, FieldSet.mem_remove]
    rintro (⟨other, -⟩ | qualified)
    · exact other rfl
    · exact Scope.qualified_ne relation primaryKey qualified.symm
  case isFalse absent => exact mt FieldSet.contains_iff.2 absent

/-- A selection that is joined is not changed by joining it again. -/
theorem joined?_joined? {scope : Scope} {key : String} {fields joined : FieldSet}
    (h : joined? scope key fields = some joined) : joined? scope key joined = some joined := by
  obtain ⟨relation, found, rfl⟩ := Option.map_eq_some_iff.1 h
  rw [joined?, found, Option.map_some]
  apply congrArg some
  cases relation.kind with
  | toOne | toMany => exact extend_extend_of_subset (List.Subset.refl _)
  | manyToMany =>
    exact if_neg fun again =>
      not_mem_qualifyKey key (relatedKey scope relation) fields (FieldSet.contains_iff.1 again)

variable {scope : Scope}

/-- The keys that are left are those of relations. -/
theorem mem_otherKeys_joinRelations {request : Request} {key : String} :
    key ∈ otherKeys scope (request.joinRelations scope).fields ↔
      key ∈ otherKeys scope request.fields ∧ (scope.main.relation? key).isSome := by
  simp only [mem_otherKeys_iff, OrderedMap.mem_keys_iff]
  constructor
  · rintro ⟨⟨fields, found⟩, other⟩
    rw [joinRelations_find? scope request other, Option.bind_eq_some_iff] at found
    obtain ⟨before, found, joined⟩ := found
    obtain ⟨relation, known, -⟩ := Option.map_eq_some_iff.1 joined
    exact ⟨⟨⟨before, found⟩, other⟩, Option.isSome_iff_exists.2 ⟨relation, known⟩⟩
  · rintro ⟨⟨⟨before, found⟩, other⟩, known⟩
    obtain ⟨relation, known⟩ := Option.isSome_iff_exists.1 known
    refine ⟨?_, other⟩
    rw [joinRelations_find? scope request other, found, Option.bind_some, joined?, known]
    exact ⟨_, rfl⟩

/-- A request whose fields and problems alone may have changed has changed if one of them has. -/
theorem eq_of_frame {request other : Request}
    (frame : ∃ fields problems, other = { request with fields, problems })
    (fields : other.fields = request.fields) (problems : other.problems = request.problems) :
    other = request := by
  obtain ⟨_, _, rfl⟩ := frame
  exact congrArg₂ (fun fields problems => { request with fields, problems }) fields problems

/-- What is joined stays as it is when it is joined again. -/
theorem joinRelations_joinRelations (valid : scope.main.Valid) (request : Request) :
    (request.joinRelations scope).joinRelations scope = request.joinRelations scope := by
  have within : otherKeys scope (request.joinRelations scope).fields ⊆
      otherKeys scope request.fields := fun key mem => (mem_otherKeys_joinRelations.1 mem).1
  refine eq_of_frame (joinRelations_frame scope _) (OrderedMap.ext_find? fun name => ?_) ?_
  · by_cases main : name = scope.main.name
    · -- the second time no other keys are joined than the first time
      have gained (s : Request) : (s.joinRelations scope).fields.find? scope.main.name =
          (s.fields.find? scope.main.name).map
            (extend · ((otherKeys scope s.fields).flatMap (mainKeys scope))) :=
        foldl_join_main_extend valid ne_of_mem_otherKeys s
      rw [main, gained, gained request, Option.map_map]
      apply congrArg (Option.map · _)
      funext fields
      refine extend_extend_of_subset fun key mem => ?_
      obtain ⟨relation, left, mem⟩ := List.mem_flatMap.1 mem
      exact List.mem_flatMap.2 ⟨relation, within left, mem⟩
    · rw [joinRelations_find? scope _ main, joinRelations_find? scope request main]
      cases request.fields.find? name with
      | none => rfl
      | some fields =>
        rw [Option.bind_some]
        cases joined : joined? scope name fields with
        | none => rfl
        | some more => exact joined?_joined? joined
  · have none : (otherKeys scope (request.joinRelations scope).fields).flatMap
        (joinProblems scope) = [] := by
      refine List.flatMap_eq_nil_iff.2 fun key mem => ?_
      obtain ⟨relation, known⟩ :=
        Option.isSome_iff_exists.1 (mem_otherKeys_joinRelations.1 mem).2
      rw [joinProblems, known]
      rfl
    rw [joinRelations_problems, none, List.append_nil]

/-- Filters that are left lead somewhere, so that none is dropped again. -/
theorem resolveFilters_resolveFilters (request : Request) :
    (request.resolveFilters scope).resolveFilters scope = request.resolveFilters scope := by
  obtain ⟨filters, problems, eq⟩ := resolveFilters_frame scope (request.resolveFilters scope)
  have same : ((request.resolveFilters scope).resolveFilters scope).filters =
      (request.resolveFilters scope).filters := by
    refine OrderedMap.ext_find? fun name => ?_
    rw [resolveFilters_find?, resolveFilters_find?]
    split <;> rfl
  -- what is left under a key has met no problem there
  have none : ((request.resolveFilters scope).resolveFilters scope).problems =
      (request.resolveFilters scope).problems := by
    have none : (otherKeys scope (request.resolveFilters scope).filters).flatMap
        (fun key => (filterProblem? scope key).toList) = [] := by
      refine List.flatMap_eq_nil_iff.2 fun key mem => ?_
      obtain ⟨kept, other⟩ := mem_otherKeys_iff.1 mem
      obtain ⟨filters, found⟩ := OrderedMap.mem_keys_iff.1 kept
      rw [resolveFilters_find?] at found
      cases problem : filterProblem? scope key with
      | none => rfl
      | some => simp [Scope.isMain, other, problem] at found
    rw [resolveFilters_problems, none, List.append_nil]
  rw [eq] at same none ⊢
  exact congrArg₂ (fun filters problems =>
    { request.resolveFilters scope with filters, problems }) same none

/-- The fields of filters are added once. -/
theorem selectFiltered_selectFiltered (request : Request) :
    request.selectFiltered.selectFiltered = request.selectFiltered := by
  have fields : request.selectFiltered.selectFiltered.fields = request.selectFiltered.fields := by
    refine OrderedMap.ext_find? fun name => ?_
    simp only [selectFiltered, OrderedMap.find?_map, Option.map_map, Function.comp_def]
    apply congrArg (Option.map · _)
    funext fields
    exact extend_extend_of_subset (List.Subset.refl _)
  exact congrArg (fun fields => { request.selectFiltered with fields }) fields

/-! ## Relations joined in another order -/

/-- Whether two ways of joining the relations of a request come to the same, up to the order in
which the main resource gains keys and problems are met. -/
structure JoinsAlike (scope : Scope) (request joined other : Request) : Prop where
  related : ∀ name, name ≠ scope.main.name → joined.fields.find? name = other.fields.find? name
  main : ∀ fields, request.fields.find? scope.main.name = some fields → ∃ list otherList,
    joined.fields.find? scope.main.name = some list ∧
      other.fields.find? scope.main.name = some otherList ∧
      fields.toList <+: list.toList ∧ fields.toList <+: otherList.toList ∧
      list.toList.Perm otherList.toList
  unselected : request.fields.find? scope.main.name = none →
    joined.fields.find? scope.main.name = none ∧ other.fields.find? scope.main.name = none
  problems : ∃ met otherMet, joined.problems = request.problems ++ met ∧
    other.problems = request.problems ++ otherMet ∧ met.Perm otherMet
  frame : ∃ fields problems, other = { joined with fields, problems }

/-- The keys of the relations may be joined in any order. -/
theorem joinsAlike_of_perm (valid : scope.main.Valid) {keys order : List String}
    (perm : order.Perm keys) (nodup : keys.Nodup)
    (relational : ∀ key ∈ keys, key ≠ scope.main.name) (request : Request) :
    JoinsAlike scope request (keys.foldl (join scope) request)
      (order.foldl (join scope) request) := by
  have relational' : ∀ key ∈ order, key ≠ scope.main.name :=
    fun key mem => relational key (perm.mem_iff.1 mem)
  -- what the main resource gains from all keys is added to it in one go
  have gained := foldl_join_main_extend valid relational request
  have gained' := foldl_join_main_extend valid relational' request
  constructor
  case related =>
    intro name other
    rw [foldl_join_find? nodup relational request other,
      foldl_join_find? (perm.nodup_iff.2 nodup) relational' request other]
    simp only [perm.mem_iff]
  case main =>
    intro fields found
    rw [found] at gained gained'
    exact ⟨_, _, gained, gained', prefix_extend _ _, prefix_extend _ _,
      extend_perm (perm.flatMap_right _).symm fields⟩
  case unselected =>
    intro none
    rw [none] at gained gained'
    exact ⟨gained, gained'⟩
  case problems =>
    exact ⟨_, _, foldl_join_problems scope keys request, foldl_join_problems scope order request,
      (perm.flatMap_right _).symm⟩
  case frame =>
    obtain ⟨fields, problems, eq⟩ := foldl_join_frame scope keys request
    obtain ⟨fields', problems', eq'⟩ := foldl_join_frame scope order request
    rw [eq, eq']
    exact ⟨_, _, rfl⟩

/-! ## Runs of passes -/

/-- A pass over a request, with what it reads. -/
inductive Pass where
  | sorting (text : Option String)
  | fields (raw : OrderedMap RawValue)
  | filters (raw : OrderedMap RawValue) (confined : Bool)
  | filtered
  | relations
  | targets
  | limits (raw : OrderedMap RawValue)
  | window (settings : Settings) (page perPage : Option String)
deriving DecidableEq

/-- The request after a pass. -/
def Pass.run (scope : Scope) (request : Request) : Pass → Request
  | sorting text => request.readSorting scope.main text
  | fields raw => request.readFields scope raw
  | filters raw confined => request.readFilters scope raw confined
  | filtered => request.selectFiltered
  | relations => request.joinRelations scope
  | targets => request.resolveFilters scope
  | limits raw => request.readLimits raw
  | window settings page perPage => request.readWindow settings page perPage

/-- The passes of a conversion. -/
def Pass.all (settings : Settings) (params : RawParams) (action : Action) : List Pass :=
  (if action = .index then [sorting params.sorting] else []) ++
    [fields params.fields, filters params.filters settings.strictFilters, filtered, relations,
      targets, limits params.limit] ++
    if action = .index then [window settings params.page params.perPage] else []

/-- A request is read by all passes in their order. -/
theorem read_eq_run (settings : Settings) (params : RawParams) (action : Action) :
    Request.read scope settings params action =
      (Pass.all settings params action).foldl (Pass.run scope)
        (Request.start scope.resourceType scope.main.name action) := by
  cases action <;> rfl

/-- Selecting fields keeps every key. -/
theorem mem_keys_readFields {raw : OrderedMap RawValue} {request : Request} {name : String}
    (mem : name ∈ request.fields.keys) : name ∈ (request.readFields scope raw).fields.keys := by
  have select (s : Request) (entry : String × RawValue) (mem : name ∈ s.fields.keys) :
      name ∈ (s.select scope entry.1 entry.2.segments).fields.keys := by
    obtain ⟨fields, found⟩ := OrderedMap.mem_keys_iff.1 mem
    rw [OrderedMap.mem_keys_iff, select_find?, found]
    split
    · cases selection? scope entry.1 entry.2.segments with
      | none => exact ⟨fields, rfl⟩
      | some chosen => exact ⟨chosen, rfl⟩
    · exact ⟨fields, rfl⟩
  have selected := foldl_frame (fun s t : Request => name ∈ s.fields.keys → name ∈ t.fields.keys)
    (fun _ => id) (fun first later mem => later (first mem)) select raw.entries request mem
  rw [readFields, defaultMain]
  split
  · exact selected
  · obtain ⟨fields, found⟩ := OrderedMap.mem_keys_iff.1 selected
    rw [OrderedMap.mem_keys_iff, OrderedMap.find?_insert, found]
    split
    · exact ⟨scope.main.allFields, rfl⟩
    · exact ⟨fields, rfl⟩

/-- A pass keeps the main key, and unless it joins the relations every key. -/
theorem Pass.mem_keys_run {pass : Pass} {request : Request} {name : String}
    (mem : name ∈ request.fields.keys) (kept : pass ≠ .relations ∨ name = scope.main.name) :
    name ∈ (pass.run scope request).fields.keys := by
  cases pass with
  | sorting text =>
    obtain ⟨sorting, problems, eq⟩ := readSorting_frame scope.main text request
    rw [run, eq]
    exact mem
  | fields raw => exact mem_keys_readFields mem
  | filters raw confined =>
    obtain ⟨filters, problems, eq⟩ := readFilters_frame scope raw confined request
    rw [run, eq]
    exact mem
  | filtered =>
    rw [run, selectFiltered, OrderedMap.keys_map]
    exact mem
  | relations =>
    -- joining may drop the other keys, but only adds to the main one
    obtain rfl := kept.resolve_left fun other => other rfl
    obtain ⟨fields, found⟩ := OrderedMap.mem_keys_iff.1 mem
    rw [run, OrderedMap.mem_keys_iff, joinRelations_main, found]
    exact ⟨_, rfl⟩
  | targets =>
    obtain ⟨filters, problems, eq⟩ := resolveFilters_frame scope request
    rw [run, eq]
    exact mem
  | limits raw =>
    obtain ⟨limits, problems, eq⟩ := readLimits_frame raw request
    rw [run, eq]
    exact mem
  | window => exact mem

/-- So does a run of passes. -/
theorem mem_keys_run {passes : List Pass} {request : Request} {name : String}
    (mem : name ∈ request.fields.keys)
    (kept : .relations ∉ passes ∨ name = scope.main.name) :
    name ∈ (passes.foldl (Pass.run scope) request).fields.keys := by
  induction passes generalizing request with
  | nil => exact mem
  | cons pass rest ih =>
    have first : pass ≠ .relations ∨ name = scope.main.name :=
      kept.imp_left fun absent eq => absent (eq ▸ List.mem_cons_self)
    exact ih (Pass.mem_keys_run mem first) (kept.imp_left fun absent later =>
      absent (List.mem_cons_of_mem pass later))

/-! ## Relations joined again, in another order, and among the passes -/

/-- Joining relations, dropping filters and selecting filtered fields have no effect the second
time. Relations may be joined in any order. No other pass drops a selection, and none drops that of
the main resource. -/
theorem joining_stable (known : scope.registry.find? scope.resourceType = some scope.main)
    (request : Request) :
    (request.joinRelations scope).joinRelations scope = request.joinRelations scope ∧
    (request.resolveFilters scope).resolveFilters scope = request.resolveFilters scope ∧
    request.selectFiltered.selectFiltered = request.selectFiltered ∧
    (∀ order : List String, order.Perm (otherKeys scope request.fields) →
      JoinsAlike scope request (request.joinRelations scope)
        (order.foldl (join scope) request)) ∧
    ∀ (passes : List Pass) (name : String), name ∈ request.fields.keys →
      (.relations ∉ passes ∨ name = scope.main.name) →
        name ∈ (passes.foldl (Pass.run scope) request).fields.keys := by
  have valid : scope.main.Valid := Registry.valid_of_find? known
  refine ⟨joinRelations_joinRelations valid request, resolveFilters_resolveFilters request,
    selectFiltered_selectFiltered request, fun order perm => ?_, fun passes name => mem_keys_run⟩
  exact joinsAlike_of_perm valid perm (nodup_otherKeys _) ne_of_mem_otherKeys request

/-- A request for two relations of the blog and for one that is not declared. -/
def ofBlog : Request :=
  { Request.start "Post" "post" .index with
    fields := ⟨[("author", .ofList ["name"]), ("post", .ofList ["title"]),
      ("tags", .ofList ["id", "label"]), ("user", .ofList ["name"])], by decide⟩ }

/-- Relations of all three kinds in another order, and a pass made twice. -/
theorem joining_stable_blog : ∃ scope, Example.strict.scope "Post" = .ok scope ∧
    ["user", "tags", "author"].Perm (otherKeys scope ofBlog.fields) ∧
    JoinsAlike scope ofBlog (ofBlog.joinRelations scope)
      (["user", "tags", "author"].foldl (join scope) ofBlog) ∧
    ((ofBlog.joinRelations scope).fields.find? "post").map (·.toList) =
      some ["title", "author_id", "id"] ∧
    ((["user", "tags", "author"].foldl (join scope) ofBlog).fields.find? "post").map (·.toList) =
      some ["title", "id", "author_id"] ∧
    "post" ∈ (([.relations, .relations] : List Pass).foldl (Pass.run scope) ofBlog).fields.keys := by
  obtain ⟨scope, found, main, perm, list, otherList⟩ : ∃ scope,
      Example.strict.scope "Post" = .ok scope ∧ "post" = scope.main.name ∧
      ["user", "tags", "author"].Perm (otherKeys scope ofBlog.fields) ∧
      ((ofBlog.joinRelations scope).fields.find? "post").map (·.toList) =
        some ["title", "author_id", "id"] ∧
      ((["user", "tags", "author"].foldl (join scope) ofBlog).fields.find? "post").map (·.toList) =
        some ["title", "id", "author_id"] :=
    ⟨_, rfl, rfl, by decide, by decide, by decide⟩
  obtain ⟨known, registry, type⟩ := Converter.scope_eq_ok_iff.1 found
  rw [← registry, ← type] at known
  obtain ⟨-, -, -, alike, kept⟩ := joining_stable known ofBlog
  exact ⟨scope, found, perm, alike _ perm, list, otherList, kept _ "post" (by decide) (.inr main)⟩

end Request

end Retrieval
