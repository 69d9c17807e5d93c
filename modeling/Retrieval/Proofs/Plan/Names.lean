import Retrieval.Proofs.Plan.Compile
import Retrieval.Proofs.Plan.References

/-!
# Names of plans

Every text of a plan that stands for a table, an alias or a column is the name of an identifier, if
the plan comes out of a conversion (`Plan.named_ofParams`). Tables, keys and fields are declared and
were checked at registration; the fields of filters have the form of a name; and the conventional
keys are put together from names.
-/

namespace Retrieval

/-- Whether the texts of a reference are names of identifiers. -/
def Reference.Named : Reference → Prop
  | .name text => Ident.isName text
  | .column qualifier text => Ident.isName qualifier ∧ Ident.isName text

/-! ## Lists of columns -/

namespace Scope

variable {scope : Scope} {params : RawParams} {confined : Bool} {key name : String}

/-- What is chosen is a name or the star. -/
theorem isName_of_mem_chosen (valid : scope.main.Valid) (mem : name ∈ scope.chosen params key) :
    name = wildcard ∨ Ident.isName name := by
  cases found : scope.resource? key with
  | none => simp [chosen, found] at mem
  | some metadata =>
    rcases mem_chosen found mem with declared | ⟨star, -⟩
    · exact .inr ((valid_of_resource? valid found).isName_of_canSelect
        (List.contains_iff_mem.2 declared))
    · exact .inl star

/-- A filter that was read has a name for its field. -/
theorem isName_of_mem_kept {filter : Filter} (mem : filter ∈ scope.kept confined params key) :
    Ident.isName filter.field := by
  cases found : scope.resource? key with
  | none => simp [kept, found] at mem
  | some metadata =>
    rw [kept_of_resource? params confined found] at mem
    obtain ⟨text, -, spelled⟩ := List.mem_filterMap.1 (List.mem_filter.1 mem).1
    exact Filter.isName_field spelled

/-- What is chosen and the fields of filters together. -/
theorem isName_of_mem_fields (valid : scope.main.Valid)
    (mem : name ∈ scope.chosen params key ++ (scope.kept confined params key).map (·.field)) :
    name = wildcard ∨ Ident.isName name := by
  rcases List.mem_append.1 mem with mem | mem
  · exact isName_of_mem_chosen valid mem
  · obtain ⟨filter, kept, rfl⟩ := List.mem_map.1 mem
    exact .inr (isName_of_mem_kept kept)

/-- The keys of a relation in the main table are names. -/
theorem isName_of_mem_mainKeys (valid : scope.main.Valid)
    (mem : name ∈ Request.mainKeys scope key) : Ident.isName name := by
  unfold Request.mainKeys at mem
  split at mem
  case h_1 => exact absurd mem List.not_mem_nil
  case h_2 relation declared =>
    split at mem
    · obtain rfl := List.mem_singleton.1 mem
      exact Relation.isName_ownerForeignKey valid declared
    · exact absurd mem List.not_mem_nil
    · obtain rfl := List.mem_singleton.1 mem
      exact valid.isName_primaryKey

/-- What is listed for the main resource is a name or the star. -/
theorem isName_of_mem_mainList (valid : scope.main.Valid)
    (mem : name ∈ scope.mainList confined params) : name = wildcard ∨ Ident.isName name := by
  rcases mem_mainList mem with mem | ⟨key, -, mem⟩
  · exact isName_of_mem_fields valid mem
  · exact .inr (isName_of_mem_mainKeys valid mem)

/-- What is listed for a relation is a name or the star. -/
theorem isName_of_mem_relatedList {relation : Relation} {target : Metadata}
    (valid : scope.main.Valid) (related : scope.related? key = some (relation, target))
    (mem : name ∈ scope.relatedList confined params key relation target) :
    name = wildcard ∨ Ident.isName name := by
  have declared := (related?_eq_some_iff.1 related).1
  have keyNamed := (valid_of_related? related).isName_primaryKey
  rcases mem_relatedList mem with mem | own
  · exact isName_of_mem_fields valid mem
  · right
    cases kind : relation.kind with
    | toOne =>
      rw [kind] at own
      exact own ▸ keyNamed
    | toMany =>
      rw [kind] at own
      exact own ▸ Relation.isName_relatedForeignKey valid declared
    | manyToMany =>
      rw [kind] at own
      exact own.1 ▸ Ident.isName_dotted (valid.isName_relation declared) keyNamed

end Scope

/-! ## References -/

open Reference (name column)

/-- A projection of names is of names. -/
theorem named_projection {label : String} {columns : FieldSet} (labelNamed : Ident.isName label)
    (named : ∀ text ∈ columns.toList, text = wildcard ∨ Ident.isName text) :
    ∀ reference ∈ projectionReferences label columns, reference.Named := by
  intro reference mem
  obtain ⟨text, inColumns, rfl⟩ := List.mem_map.1 mem
  split
  case isTrue => exact labelNamed
  case isFalse plain =>
    split at inColumns
    · exact absurd (List.mem_singleton.1 inColumns) plain
    · exact ⟨labelNamed, (named text inColumns).resolve_left plain⟩

/-- The names that a declared relation brings into a plan. -/
theorem named_correlation {scope : Scope} {key table : String} {relation : Relation}
    {target : Metadata} (valid : scope.main.Valid)
    (related : scope.related? key = some (relation, target)) (tableNamed : Ident.isName table) :
    (∀ reference ∈ (relation.correlation key scope.main target).sourceReferences table key,
      reference.Named) ∧
    ∀ reference ∈ (relation.correlation key scope.main target).conditionReferences scope.main.name
      key, reference.Named := by
  have declared := (Scope.related?_eq_some_iff.1 related).1
  have valid' := Scope.valid_of_related? related
  have keyNamed := valid.isName_relation declared
  have mainNamed := valid.isName_name
  obtain ⟨pivot, foreign, relatedKey⟩ := Relation.isName_pivotKeys valid valid' declared
  have tableReferences : ∀ reference ∈ tableReferences table key, reference.Named :=
    List.forall_mem_cons.2 ⟨tableNamed, List.forall_mem_singleton.2 keyNamed⟩
  unfold Relation.correlation
  cases relation.kind with
  | toOne =>
    refine ⟨fun reference mem => tableReferences reference ?_, ?_⟩
    · simpa [Correlation.sourceReferences] using mem
    · refine List.forall_mem_cons.2 ⟨⟨keyNamed, valid'.isName_primaryKey⟩, ?_⟩
      exact List.forall_mem_singleton.2 ⟨mainNamed, Relation.isName_ownerForeignKey valid declared⟩
  | toMany =>
    refine ⟨fun reference mem => tableReferences reference ?_, ?_⟩
    · simpa [Correlation.sourceReferences] using mem
    · have foreignKey := Relation.isName_relatedForeignKey valid declared
      refine List.forall_mem_cons.2 ⟨⟨keyNamed, foreignKey⟩, ?_⟩
      exact List.forall_mem_singleton.2 ⟨mainNamed, valid.isName_primaryKey⟩
  | manyToMany =>
    refine ⟨List.forall_mem_append.2 ⟨tableReferences, ?_⟩, ?_⟩
    · refine List.forall_mem_cons.2 ⟨pivot, List.forall_mem_cons.2 ⟨⟨pivot, relatedKey⟩, ?_⟩⟩
      exact List.forall_mem_singleton.2 ⟨keyNamed, valid'.isName_primaryKey⟩
    · refine List.forall_mem_cons.2 ⟨⟨pivot, foreign⟩, ?_⟩
      exact List.forall_mem_singleton.2 ⟨mainNamed, valid.isName_primaryKey⟩

namespace Plan

variable {scope : Scope} {settings : Settings} {params : RawParams} {action : Action}
  {id : Option String}

/-- All that a relation is loaded with is a name. -/
theorem named_eagerLoad (valid : scope.main.Valid) {load : EagerLoad}
    (mem : load ∈ (ofParams scope settings params action id).eager) :
    ∀ reference ∈ load.references scope.main.name, reference.Named := by
  obtain ⟨relation, target, loads⟩ := loads_of_mem_eager valid mem
  have valid' := Scope.valid_of_related? loads.related
  have relationNamed := valid.isName_relation (Scope.related?_eq_some_iff.1 loads.related).1
  have columns : ∀ text ∈ load.columns.toList, text = wildcard ∨ Ident.isName text := by
    rw [loads.columns]
    exact fun text mem => Scope.isName_of_mem_relatedList valid loads.related mem
  obtain ⟨source, condition⟩ := named_correlation valid loads.related valid'.isName_table
  rw [← loads.correlation] at source condition
  rw [← loads.table] at source
  rw [EagerLoad.references]
  -- in the order of the names: columns, source, condition, key, alias
  refine List.forall_mem_append.2 ⟨named_projection relationNamed columns, ?_⟩
  refine List.forall_mem_append.2 ⟨source, List.forall_mem_append.2 ⟨condition, ?_⟩⟩
  refine List.forall_mem_append.2 ⟨?_, List.forall_mem_singleton.2 relationNamed⟩
  split
  · exact List.forall_mem_nil _
  · rw [loads.primaryKey]
    exact List.forall_mem_singleton.2 ⟨relationNamed, valid'.isName_primaryKey⟩

/-- All that a condition compares is a name. -/
theorem named_predicate (valid : scope.main.Valid) {predicate : Predicate}
    (mem : predicate ∈ (ofParams scope settings params action id).predicates) :
    ∀ reference ∈ predicate.references scope.main.name, reference.Named := by
  have asks := asks_of_mem_predicates mem
  cases predicate with
  | filter f =>
    exact List.forall_mem_singleton.2 ⟨valid.isName_name, Scope.isName_of_mem_kept asks⟩
  | related key table correlation filters =>
    obtain ⟨relational, relation, target, related, rfl, rfl, rfl⟩ := asks
    have keyNamed := valid.isName_relation (Scope.related?_eq_some_iff.1 related).1
    obtain ⟨source, condition⟩ :=
      named_correlation valid related (Scope.valid_of_related? related).isName_table
    refine List.forall_mem_append.2 ⟨source, List.forall_mem_append.2 ⟨condition, ?_⟩⟩
    intro reference mem
    obtain ⟨f, kept, rfl⟩ := List.mem_map.1 mem
    exact ⟨keyNamed, Scope.isName_of_mem_kept kept⟩

/-- The keys of a lookup are names. -/
theorem named_lookup (valid : scope.main.Valid) {lookup : Lookup}
    (mem : lookup ∈ (ofParams scope settings params action id).lookup.toList) :
    ∀ reference ∈ lookup.references scope.main.name, reference.Named := by
  have found : ∃ value, lookup = lookupOf scope.main value := by
    rw [Option.mem_toList, ofParams, ofRequest] at mem
    dsimp only at mem
    split at mem
    · simp at mem
    · obtain ⟨value, -, rfl⟩ := Option.map_eq_some_iff.1 mem
      exact ⟨value, rfl⟩
  obtain ⟨value, rfl⟩ := found
  have key : (column scope.main.name scope.main.primaryKey).Named :=
    ⟨valid.isName_name, valid.isName_primaryKey⟩
  unfold lookupOf
  cases alternate : scope.main.alternateKey with
  | none => exact List.forall_mem_singleton.2 key
  | some other =>
    refine List.forall_mem_cons.2 ⟨key, List.forall_mem_singleton.2 ?_⟩
    exact ⟨valid.isName_name, valid.isName_alternateKey alternate⟩

/-- All names of the plan of a conversion are names of identifiers. -/
theorem named_ofParams (valid : scope.main.Valid) :
    ∀ reference ∈ (ofParams scope settings params action id).references, reference.Named := by
  have label : (ofParams scope settings params action id).label = scope.main.name := rfl
  have columns : ∀ text ∈ (ofParams scope settings params action id).columns.toList,
      text = wildcard ∨ Ident.isName text := by
    rw [columns_ofParams valid]
    exact fun text mem => Scope.isName_of_mem_mainList valid mem
  rw [references, label]
  refine List.forall_mem_append.2 ⟨named_projection valid.isName_name columns, ?_⟩
  refine List.forall_mem_append.2 ⟨?_, List.forall_mem_append.2 ⟨?_, ?_⟩⟩
  · intro reference mem
    obtain ⟨load, inPlan, mem⟩ := List.mem_flatMap.1 mem
    exact named_eagerLoad valid inPlan reference mem
  · exact List.forall_mem_cons.2 ⟨valid.isName_table, List.forall_mem_singleton.2 valid.isName_name⟩
  · refine List.forall_mem_append.2 ⟨?_, List.forall_mem_append.2 ⟨?_, ?_⟩⟩
    · intro reference mem
      obtain ⟨lookup, inPlan, mem⟩ := List.mem_flatMap.1 mem
      exact named_lookup valid inPlan reference mem
    · intro reference mem
      obtain ⟨predicate, inPlan, mem⟩ := List.mem_flatMap.1 mem
      exact named_predicate valid inPlan reference mem
    · intro reference mem
      obtain ⟨key, inPlan, rfl⟩ := List.mem_map.1 mem
      exact ⟨valid.isName_name, valid.isName_of_canSort (canSort_of_mem_sort inPlan)⟩

end Plan

end Retrieval
