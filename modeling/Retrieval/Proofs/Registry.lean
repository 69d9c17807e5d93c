import Retrieval.Proofs.Conversion
import Retrieval.Proofs.Request.Problems

/-!
# Histories of registries

A registry is filled by calls, and any of them may be refused. One call changes what stands under
its type or nothing (`Registry.find?_after`), so by induction on the calls a type has the last valid
description that was given for it (`Registry.find?_ofCalls`), and what was refused might as well not
have been tried (`Registry.ofCalls_filter`). Which descriptions are valid is said by
`Metadata.Identified` from their parts.

Registration does not ask where relations lead; the report on dangling relations does, for all of
them at once (`Registry.mem_dangling_iff`). A request looks for the target of a relation when fields
are selected under its name and again when filters are resolved. In both places a declared relation
is an unknown resource only if it is reported (`Registry.mem_dangling_of_unknownResource`).
-/

namespace Retrieval

/-! ## Valid descriptions -/

/-- Whether a declaration gives a name for one of its keys, or for its pivot table. -/
def Relation.Gives (relation : Relation) (name : String) : Prop :=
  match relation.kind with
  | .toOne foreignKey | .toMany foreignKey => foreignKey = some name
  | .manyToMany pivot foreignPivotKey relatedPivotKey =>
    pivot = some name ∨ foreignPivotKey = some name ∨ relatedPivotKey = some name

/-- Whether every name in a description is that of an identifier. -/
structure Metadata.Identified (metadata : Metadata) : Prop where
  name : Ident.Dotted metadata.name
  table : Ident.Dotted metadata.table
  primaryKey : Ident.Dotted metadata.primaryKey
  selectable : ∀ field ∈ metadata.selectable, Ident.Dotted field
  sortable : ∀ field ∈ metadata.sortable, Ident.Dotted field
  alternateKey : ∀ key, metadata.alternateKey = some key → Ident.Dotted key
  relations : ∀ name relation, metadata.relation? name = some relation →
    Ident.Dotted name ∧ ∀ key, relation.Gives key → Ident.Dotted key

/-- The names that a relation gives are those of its key columns and of its pivot table. -/
theorem Relation.mem_givenNames_iff {relation : Relation} {name : String} :
    name ∈ relation.givenNames ↔ relation.Gives name := by
  obtain ⟨target, kind⟩ := relation
  cases kind with
  | toOne | toMany => exact Option.mem_toList
  | manyToMany =>
    rw [givenNames, Gives]
    simp only [List.mem_append, Option.mem_toList, or_assoc]

namespace Metadata

variable {metadata : Metadata}

/-- A description is valid if every name in it is an identifier. -/
theorem valid_iff_identified : metadata.Valid ↔ metadata.Identified := by
  constructor
  · intro valid
    refine ⟨?_, ?_, ?_, ?_, ?_, ?_, ?_⟩
    · exact Ident.isName_iff_dotted.1 valid.isName_name
    · exact Ident.isName_iff_dotted.1 valid.isName_table
    · exact Ident.isName_iff_dotted.1 valid.isName_primaryKey
    · intro field mem
      exact Ident.isName_iff_dotted.1 (valid.isName_of_canSelect (List.contains_iff_mem.2 mem))
    · intro field mem
      exact Ident.isName_iff_dotted.1 (valid.isName_of_canSort (List.contains_iff_mem.2 mem))
    · intro key given
      exact Ident.isName_iff_dotted.1 (valid.isName_alternateKey given)
    · intro name relation declared
      refine ⟨Ident.isName_iff_dotted.1 (valid.isName_relation declared), fun key given => ?_⟩
      have mem := List.mem_cons_of_mem name (Relation.mem_givenNames_iff.2 given)
      exact Ident.isName_iff_dotted.1 (valid.names_of_relation declared mem)
  · intro identified name mem
    -- a name stands in one of the five lists that make up the names of a description
    rw [names, List.mem_append, List.mem_append, List.mem_append, List.mem_append] at mem
    rw [Ident.isName_iff_dotted]
    obtain (((basic | selectable) | sortable) | alternate) | related := mem
    · simp only [List.mem_cons, List.not_mem_nil, or_false] at basic
      obtain rfl | rfl | rfl := basic
      · exact identified.name
      · exact identified.table
      · exact identified.primaryKey
    · exact identified.selectable name selectable
    · exact identified.sortable name sortable
    · exact identified.alternateKey name (Option.mem_toList.1 alternate)
    · obtain ⟨⟨key, relation⟩, entry, mem⟩ := List.mem_flatMap.1 related
      have declared := (metadata.relations.mem_entries_iff key relation).1 entry
      obtain ⟨named, given⟩ := identified.relations key relation declared
      obtain rfl | mem := List.mem_cons.1 mem
      · exact named
      · exact given name (Relation.mem_givenNames_iff.1 mem)

/-- Just the valid descriptions pass the check. -/
theorem validate_eq_ok_iff : metadata.validate = .ok () ↔ metadata.Valid := by
  refine ⟨valid_of_validate, fun valid => ?_⟩
  have none : metadata.names.find? (!Ident.isName ·) = none := by
    rw [List.find?_eq_none]
    intro name mem
    simp [valid name mem]
  rw [validate, none]

/-- An invalid description is refused for a name in it that is none. -/
theorem exists_validate_error (invalid : ¬metadata.Valid) :
    ∃ bad ∈ metadata.names, ¬Ident.isName bad ∧
      metadata.validate = .error (.badResource metadata.name bad) := by
  rw [validate]
  cases found : metadata.names.find? (!Ident.isName ·) with
  | none =>
    rw [List.find?_eq_none] at found
    exact absurd (fun name mem => by simpa using found name mem) invalid
  | some bad => exact ⟨bad, List.mem_of_find?_eq_some found, by simpa using List.find?_some found, rfl⟩

end Metadata

/-! ## Calls -/

namespace Registry

/-- The registry that a call leaves. -/
def after (registry : Registry) (call : String × Metadata) : Registry :=
  ((register call.1 call.2).apply registry).2

/-- The registry that some calls leave, each with a type and its description. -/
def ofCalls (calls : List (String × Metadata)) : Registry := calls.foldl after empty

variable {registry : Registry} {resourceType : String} {metadata : Metadata}

/-- A valid description is put in. -/
theorem apply_register_of_valid (registry : Registry) (resourceType : String)
    (valid : metadata.Valid) : (register resourceType metadata).apply registry =
      (.ok (), registry.insert resourceType metadata valid) := by
  unfold register
  split
  case h_1 failure refused => simp [Metadata.validate_eq_ok_iff.2 valid] at refused
  case h_2 => rfl

/-- An invalid description is refused and leaves the registry as it was. -/
theorem apply_register_of_not_valid (registry : Registry) (resourceType : String)
    (invalid : ¬metadata.Valid) :
    ∃ bad ∈ metadata.names, ¬Ident.isName bad ∧ (register resourceType metadata).apply registry =
      (.error (.badResource metadata.name bad), registry) := by
  obtain ⟨bad, mem, none, refused⟩ := Metadata.exists_validate_error invalid
  refine ⟨bad, mem, none, ?_⟩
  unfold register
  split
  case h_1 failure eq =>
    rw [eq, Except.error.injEq] at refused
    rw [refused]
    rfl
  case h_2 ok => simp [refused] at ok

/-- A valid description is stored. -/
theorem after_of_valid {call : String × Metadata} (valid : call.2.Valid) :
    registry.after call = registry.insert call.1 call.2 valid := by
  rw [after, apply_register_of_valid registry call.1 valid]

/-- A description that is not valid changes nothing. -/
theorem after_of_not_valid {call : String × Metadata} (invalid : ¬call.2.Valid) :
    registry.after call = registry := by
  obtain ⟨bad, -, -, refused⟩ := apply_register_of_not_valid registry call.1 invalid
  rw [after, refused]

/-- A call changes what stands under its type if it gives a valid description, and else nothing. -/
theorem find?_after (call : String × Metadata) (other : String) :
    (registry.after call).find? other =
      if call.2.Valid ∧ other = call.1 then some call.2 else registry.find? other := by
  by_cases valid : call.2.Valid
  · rw [after_of_valid valid, find?, insert, OrderedMap.find?_insert]
    simp [valid, find?]
  · rw [after_of_not_valid valid, if_neg fun h => valid h.1]

/-! ## Runs -/

/-- The last call meets what the calls before it leave. -/
theorem ofCalls_concat (calls : List (String × Metadata)) (call : String × Metadata) :
    ofCalls (calls ++ [call]) = (ofCalls calls).after call :=
  List.foldl_concat ..

/-- A type has the last valid description among the calls. -/
theorem find?_ofCalls (calls : List (String × Metadata)) (other : String) :
    (ofCalls calls).find? other =
      (calls.reverse.filter fun call => call.2.Valid).lookup other := by
  induction calls using List.reverseRecOn with
  | nil => rfl
  | append_singleton calls call ih =>
    rw [ofCalls_concat, find?_after, ih, List.reverse_concat]
    by_cases valid : call.2.Valid
    · rw [List.filter_cons_of_pos (by simpa using valid), OrderedMap.lookup_cons]
      simp [valid]
    · rw [List.filter_cons_of_neg (by simpa using valid)]
      simp [valid]

/-- What was refused might as well not have been tried. -/
theorem ofCalls_filter (calls : List (String × Metadata)) :
    ofCalls (calls.filter fun call => call.2.Valid) = ofCalls calls := by
  rw [ofCalls, List.foldl_filter, ofCalls]
  congr 1
  funext registry call
  split
  case isTrue => rfl
  case isFalse invalid => exact (after_of_not_valid (by simpa using invalid)).symm

/-! ## Relations that lead nowhere -/

/-- The report on a relation of a type, if it leads nowhere. -/
def report? (registry : Registry) (resourceType : String) (entry : String × Relation) :
    Option Dangling :=
  if (registry.find? entry.2.target).isSome then none
  else some ⟨resourceType, entry.1, entry.2.target⟩

/-- A relation is reported if its target is not registered. -/
theorem report?_eq_some_iff {entry : String × Relation} {d : Dangling} :
    registry.report? resourceType entry = some d ↔
      registry.find? entry.2.target = none ∧ ⟨resourceType, entry.1, entry.2.target⟩ = d := by
  rw [report?]
  cases registry.find? entry.2.target with
  | none => simp
  | some => simp

theorem dangling_eq (registry : Registry) : registry.dangling =
    registry.resources.entries.flatMap fun entry =>
      entry.2.relations.entries.filterMap (registry.report? entry.1) := rfl

/-- A relation is reported when its target is not registered. -/
theorem mem_dangling_iff {d : Dangling} : d ∈ registry.dangling ↔
    ∃ metadata relation, registry.find? d.resourceType = some metadata ∧
      metadata.relation? d.relation = some relation ∧ relation.target = d.target ∧
      registry.find? d.target = none := by
  simp only [dangling_eq, List.mem_flatMap, List.mem_filterMap, report?_eq_some_iff]
  constructor
  · rintro ⟨⟨type, metadata⟩, entry, ⟨name, relation⟩, declared, unknown, rfl⟩
    exact ⟨metadata, relation, (registry.resources.mem_entries_iff type metadata).1 entry,
      (metadata.relations.mem_entries_iff name relation).1 declared, rfl, unknown⟩
  · obtain ⟨type, name, target⟩ := d
    rintro ⟨metadata, relation, found, declared, rfl, unknown⟩
    exact ⟨(type, metadata), (registry.resources.mem_entries_iff type metadata).2 found,
      (name, relation), (metadata.relations.mem_entries_iff name relation).2 declared, unknown, rfl⟩

/-- Whether a report stands before another one: by its type and then by its relation. The order of
characters is that of their bytes in UTF-8. -/
def Dangling.Before (d other : Dangling) : Prop :=
  d.resourceType < other.resourceType ∨
    d.resourceType = other.resourceType ∧ d.relation < other.relation

/-- The reports are ordered strictly, so none is made twice. -/
theorem dangling_sorted (registry : Registry) : registry.dangling.Pairwise Dangling.Before := by
  rw [dangling_eq, List.pairwise_flatMap]
  constructor
  · -- within a resource by the names of its relations
    intro resource _
    refine resource.2.relations.sorted.filterMap _ ?_
    intro entry other lt d report d' report'
    obtain ⟨-, rfl⟩ := report?_eq_some_iff.1 report
    obtain ⟨-, rfl⟩ := report?_eq_some_iff.1 report'
    exact .inr ⟨rfl, lt⟩
  · refine registry.resources.sorted.imp ?_
    intro resource other lt d mem d' mem'
    obtain ⟨_, -, report⟩ := List.mem_filterMap.1 mem
    obtain ⟨_, -, report'⟩ := List.mem_filterMap.1 mem'
    obtain ⟨-, rfl⟩ := report?_eq_some_iff.1 report
    obtain ⟨-, rfl⟩ := report?_eq_some_iff.1 report'
    exact .inl lt

end Registry

/-! ## Unknown resources of a request -/

namespace Request

variable {scope : Scope} {key : String}

/-- A selection is reported with the key if it has a name and the key leads nowhere. -/
theorem unknownResource_mem_fieldProblems_iff {other : String} {names : List String} :
    .unknownResource key ∈ fieldProblems scope other names ↔
      names ≠ [] ∧ scope.metadata? other = none ∧ key = other := by
  rw [fieldProblems]
  cases names with
  | nil => simp
  | cons name names =>
    cases scope.metadata? other with
    | none => simp
    | some metadata => simp

/-- A filter is reported with the key if the target of the relation is not registered. -/
theorem filterProblem?_eq_unknownResource_iff {other : String} :
    filterProblem? scope other = some (.unknownResource key) ↔
      ∃ relation, scope.main.relation? other = some relation ∧
        scope.registry.find? relation.target = none ∧ key = other := by
  rw [filterProblem?]
  cases scope.main.relation? other with
  | none => simp
  | some relation =>
    cases known : scope.registry.find? relation.target with
    | none => simp [known, eq_comm]
    | some => simp [known]

/-- A resource is unknown to a request only where fields are selected and where filters are
resolved. -/
theorem unknownResource_mem_problems {settings : Settings} {params : RawParams} {action : Action}
    (mem : .unknownResource key ∈ (Request.read scope settings params action).problems) :
    scope.metadata? key = none ∨ filterProblem? scope key = some (.unknownResource key) := by
  rw [read_problems, limited_problems, unjoined_problems] at mem
  simp only [List.mem_append, List.mem_flatMap, Option.mem_toList] at mem
  obtain (((((sorting | ⟨entry, -, fields⟩) | ⟨entry, -, filters⟩) | ⟨other, -, joined⟩) |
    ⟨other, -, resolved⟩) | ⟨entry, -, limit⟩) | page := mem
  · split at sorting
    · simp [sortProblems] at sorting
    · simp at sorting
  · obtain ⟨-, unknown, rfl⟩ := unknownResource_mem_fieldProblems_iff.1 fields
    exact .inl unknown
  · simp [filterProblems] at filters
  · simp [joinProblems] at joined
  · obtain ⟨-, -, -, rfl⟩ := filterProblem?_eq_unknownResource_iff.1 resolved
    exact .inr resolved
  · unfold limitProblems at limit
    repeat' split at limit
    all_goals simp at limit
  · split at page
    · simp [pageProblems] at page
    · simp at page

/-- A declared relation is an unknown resource only if its target is not registered. -/
theorem find?_target_of_unknownResource {settings : Settings} {params : RawParams} {action : Action}
    {relation : Relation} (declared : scope.main.relation? key = some relation)
    (mem : .unknownResource key ∈ (Request.read scope settings params action).problems) :
    scope.registry.find? relation.target = none := by
  rcases unknownResource_mem_problems mem with unknown | unresolved
  · rw [Scope.metadata?] at unknown
    split at unknown
    case isTrue => simp at unknown
    case isFalse other =>
      rw [Scope.typeOf, if_neg other, declared] at unknown
      exact unknown
  · obtain ⟨relation', found, unknown, -⟩ := filterProblem?_eq_unknownResource_iff.1 unresolved
    rw [declared, Option.some.injEq] at found
    rwa [found]

end Request

namespace Registry

/-- A conversion takes a declared relation for an unknown resource only if it is reported. -/
theorem mem_dangling_of_unknownResource {converter : Converter} {resourceType key : String}
    {main : Metadata} {relation : Relation} {params : RawParams} {action : Action}
    {id : Option String} {conversion : Conversion}
    (h : converter.convert resourceType params action id = .ok conversion)
    (found : converter.registry.find? resourceType = some main)
    (declared : main.relation? key = some relation)
    (mem : .unknownResource key ∈ conversion.request.problems) :
    ⟨resourceType, key, relation.target⟩ ∈ converter.registry.dangling := by
  obtain ⟨scope, inScope, -, rfl⟩ := Converter.convert_eq_ok_iff.1 h
  obtain ⟨found', registry, -⟩ := Converter.scope_eq_ok_iff.1 inScope
  obtain rfl : main = scope.main := by rwa [found, Option.some.injEq] at found'
  have unknown := Request.find?_target_of_unknownResource declared mem
  rw [registry] at unknown
  exact mem_dangling_iff.2 ⟨scope.main, relation, found, declared, rfl, unknown⟩

/-! ## What a history leads to -/

/-- How a registry takes a call: a valid description is put under its type and nothing else
changes, and an invalid one is refused for one of its names and changes nothing. -/
structure Takes (registry : Registry) (call : String × Metadata) (next : Registry) : Prop where
  accepted : call.2.Identified → (register call.1 call.2).apply registry = (.ok (), next) ∧
    ∀ other, next.find? other = if other = call.1 then some call.2 else registry.find? other
  refused : ¬call.2.Identified → next = registry ∧ ∃ bad ∈ call.2.names, ¬Ident.Dotted bad ∧
    (register call.1 call.2).apply registry = (.error (.badResource call.2.name bad), registry)

/-- What is true of a registry that some calls have filled. -/
structure Recorded (calls : List (String × Metadata)) (registry : Registry) : Prop where
  next : ∀ call, registry.Takes call (ofCalls (calls ++ [call]))
  /-- A type has the last valid description that was given for it. -/
  last : ∀ resourceType, registry.find? resourceType =
    (calls.reverse.filter fun call => call.2.Valid).lookup resourceType
  /-- What was refused might as well not have been tried. -/
  unrefused : ofCalls (calls.filter fun call => call.2.Valid) = registry
  /-- What is stored would be accepted again. -/
  stored : ∀ resourceType metadata, registry.find? resourceType = some metadata →
    metadata.validate = .ok ()
  reported : ∀ d, d ∈ registry.dangling ↔
    ∃ metadata relation, registry.find? d.resourceType = some metadata ∧
      metadata.relation? d.relation = some relation ∧ relation.target = d.target ∧
      registry.find? d.target = none
  ordered : registry.dangling.Pairwise Dangling.Before
  /-- If nothing is reported, then every declared relation is known to every conversion. -/
  resolved : registry.dangling = [] → ∀ (settings : Settings) (resourceType : String)
    (main : Metadata) (params : RawParams) (action : Action) (id : Option String)
    (conversion : Conversion), registry.find? resourceType = some main →
    (Converter.mk registry settings).convert resourceType params action id = .ok conversion →
    ∀ key relation, main.relation? key = some relation →
      .unknownResource key ∉ conversion.request.problems

/-- Every call is taken or changes nothing. -/
theorem takes_after (registry : Registry) (call : String × Metadata) :
    registry.Takes call (registry.after call) := by
  constructor
  · intro identified
    have valid := Metadata.valid_iff_identified.2 identified
    refine ⟨?_, fun other => ?_⟩
    · rw [after_of_valid valid, apply_register_of_valid registry call.1 valid]
    · rw [find?_after]
      simp [valid]
  · intro unidentified
    have invalid := mt Metadata.valid_iff_identified.1 unidentified
    obtain ⟨bad, mem, none, refused⟩ := apply_register_of_not_valid registry call.1 invalid
    exact ⟨after_of_not_valid invalid, bad, mem, mt Ident.isName_iff_dotted.2 none, refused⟩

/-- Validation asks for identifiers and for nothing else, and every history of calls, valid or not,
leads to a registry that keeps the record of it. -/
theorem recorded_ofCalls : (∀ metadata : Metadata, metadata.validate = .ok () ↔ metadata.Identified) ∧
    ∀ calls, Recorded calls (ofCalls calls) := by
  constructor
  · intro metadata
    rw [Metadata.validate_eq_ok_iff, Metadata.valid_iff_identified]
  · intro calls
    refine ⟨?_, find?_ofCalls calls, ofCalls_filter calls, ?_, fun d => mem_dangling_iff,
      dangling_sorted _, ?_⟩
    · intro call
      rw [ofCalls_concat]
      exact takes_after _ call
    · intro resourceType metadata found
      exact Metadata.validate_eq_ok_iff.2 (valid_of_find? found)
    · intro none settings resourceType main params action id conversion found h key relation declared
        mem
      have reported := mem_dangling_of_unknownResource h found declared mem
      rw [none] at reported
      exact List.not_mem_nil reported

end Registry

/-- The blog is registered from its last type to its first, and then a description of tags whose
name is none. -/
def Example.calls : List (String × Metadata) :=
  blog.resources.entries.reverse ++ [("Tag", Metadata.basic "the tag" "tags")]

/-- The last call is refused. No relation of the blog leads nowhere, so a request for all of it
finds every relation. -/
theorem Registry.recorded_ofCalls_blog :
    (ofCalls Example.calls).find? "Tag" = Example.blog.find? "Tag" ∧
      (ofCalls Example.calls).dangling = [] ∧
      ∃ conversion, (Converter.mk (ofCalls Example.calls) Settings.standard).convert "Post"
        Example.everything .index none = .ok conversion ∧
        .unknownResource "tags" ∉ conversion.request.problems := by
  obtain ⟨-, recorded⟩ := recorded_ofCalls
  have last := (recorded Example.calls).last
  have complete : (ofCalls Example.calls).dangling = [] := by decide +kernel
  obtain ⟨main, found, declared⟩ : ∃ main, (ofCalls Example.calls).find? "Post" = some main ∧
      main.relation? "tags" = some ⟨"Tag", .manyToMany none none none⟩ := ⟨_, last "Post", rfl⟩
  obtain ⟨conversion, converted⟩ := Except.error?_eq_none_iff.1 <|
    show ((Converter.mk (ofCalls Example.calls) Settings.standard).convert "Post"
      Example.everything .index none).error? = none by decide +kernel
  refine ⟨(last "Tag").trans rfl, complete, conversion, converted, ?_⟩
  exact (recorded Example.calls).resolved complete Settings.standard "Post" main Example.everything
    .index none conversion found converted "tags" _ declared

end Retrieval
