import Retrieval.Proofs.Plan.Labels
import Retrieval.Proofs.Plan.Names

/-!
# Which plans of conversions have a statement

Every name of a plan that comes out of a conversion is the name of an identifier
(`Plan.named_ofParams`), since registration lets no other in. That is not enough for a statement: a
dotted name may not qualify a column, and behind an `AS` it is no single name. `Plan.Addressable`
says which names may not be dotted, and `Converter.wellLabelled_iff` that this is exactly what is
needed.
-/

namespace Retrieval

/-- The columns of the pivot table that a correlation refers to, each behind the table. -/
def Correlation.pivotColumns : Correlation → List (String × String)
  | .manyToMany pivot foreignPivotKey relatedPivotKey _ _ =>
    [(pivot, foreignPivotKey), (pivot, relatedPivotKey)]
  | _ => []

namespace Plan

/-- The columns of pivot tables that a plan refers to. -/
def pivotColumns (plan : Plan) : List (String × String) :=
  plan.eager.flatMap (·.correlation.pivotColumns) ++ plan.predicates.flatMap fun
    | .filter _ => []
    | .related _ _ correlation _ => correlation.pivotColumns

/-- A plan whose labels are not dotted, nor its pivot tables unless their columns are. -/
structure Addressable (plan : Plan) : Prop where
  labels : ∀ name ∈ plan.labels, '.' ∉ name.toList
  pivots : ∀ column ∈ plan.pivotColumns, '.' ∈ column.2.toList ∨ '.' ∉ column.1.toList

/-- Whether a statement is written in which every alias is a single name. -/
def WellLabelled (rendered : Except Failure Statement) : Prop :=
  ∃ statement, rendered = .ok statement ∧ SingleAliases statement.text.toList

end Plan

/-! ## Columns and their qualifiers -/

open Reference (column)

variable {qualifier text : String}

/-- What is projected is put behind the label alone. -/
theorem qualifier_of_projection {label : String} {columns : FieldSet}
    (mem : column qualifier text ∈ projectionReferences label columns) : qualifier = label := by
  obtain ⟨field, -, eq⟩ := List.mem_map.1 mem
  split at eq
  · simp at eq
  · simp_all

/-- Behind the tables of a relation stand its own columns and those of its pivot table. -/
theorem qualifier_of_source {correlation : Correlation} {table relation : String}
    (mem : column qualifier text ∈ correlation.sourceReferences table relation) :
    qualifier = relation ∨ (qualifier, text) ∈ correlation.pivotColumns := by
  cases correlation with
  | toOne | toMany => simp [Correlation.sourceReferences, tableReferences] at mem
  | manyToMany =>
    simp [Correlation.sourceReferences, tableReferences] at mem
    rcases mem with ⟨rfl, rfl⟩ | ⟨rfl, rfl⟩
    · exact .inr (by simp [Correlation.pivotColumns])
    · exact .inl rfl

/-- A condition compares columns of the two rows and of the pivot table. -/
theorem qualifier_of_condition {correlation : Correlation} {main relation : String}
    (mem : column qualifier text ∈ correlation.conditionReferences main relation) :
    qualifier = relation ∨ qualifier = main ∨ (qualifier, text) ∈ correlation.pivotColumns := by
  cases correlation with
  | toOne | toMany | manyToMany =>
    simp [Correlation.conditionReferences] at mem
    rcases mem with ⟨rfl, rfl⟩ | ⟨rfl, rfl⟩
    all_goals simp [Correlation.pivotColumns]

/-- What is loaded has columns of the two rows and of the pivot table. -/
theorem qualifier_of_eagerLoad {load : EagerLoad} {main : String}
    (mem : column qualifier text ∈ load.references main) :
    qualifier = load.relation ∨ qualifier = main ∨
      (qualifier, text) ∈ load.correlation.pivotColumns := by
  simp only [EagerLoad.references, List.mem_append] at mem
  rcases mem with mem | mem | mem | mem | mem
  · exact .inl (qualifier_of_projection mem)
  · exact (qualifier_of_source mem).imp_right .inr
  · exact qualifier_of_condition mem
  · split at mem
    · exact absurd mem List.not_mem_nil
    · exact .inl (Reference.column.inj (List.mem_singleton.1 mem)).1
  · simp at mem

/-- A condition on related rows has columns of the two rows and of the pivot table. -/
theorem qualifier_of_related {relation table main : String} {correlation : Correlation}
    {filters : List Filter}
    (mem : column qualifier text ∈
      (Predicate.related relation table correlation filters).references main) :
    qualifier = relation ∨ qualifier = main ∨ (qualifier, text) ∈ correlation.pivotColumns := by
  simp only [Predicate.references, List.mem_append] at mem
  rcases mem with mem | mem | mem
  · exact (qualifier_of_source mem).imp_right .inr
  · exact qualifier_of_condition mem
  · obtain ⟨f, -, eq⟩ := List.mem_map.1 mem
    exact .inl (Reference.column.inj eq).1.symm

/-- Both columns of the pivot table are written wherever the relation is. -/
theorem mem_references_of_pivotColumns {correlation : Correlation} {main : String}
    (table relation : String) (mem : (qualifier, text) ∈ correlation.pivotColumns) :
    column qualifier text ∈ correlation.conditionReferences main relation ∨
      column qualifier text ∈ correlation.sourceReferences table relation := by
  cases correlation with
  | toOne | toMany => exact absurd mem List.not_mem_nil
  | manyToMany =>
    simp only [Correlation.pivotColumns, List.mem_cons, Prod.mk.injEq, List.not_mem_nil,
      or_false] at mem
    rcases mem with ⟨rfl, rfl⟩ | ⟨rfl, rfl⟩
    · exact .inl List.mem_cons_self
    · exact .inr (by simp [Correlation.sourceReferences])

namespace Plan

variable {plan : Plan}

/-- A column of a plan stands behind a label, or it is a column of a pivot table. -/
theorem qualifier_cases (mem : column qualifier text ∈ plan.references) :
    qualifier ∈ plan.labels ∨ (qualifier, text) ∈ plan.pivotColumns := by
  have main : plan.label ∈ plan.labels := List.mem_cons_self
  simp only [references, List.mem_append] at mem
  -- the six parts of a plan: columns, loads, table, lookup, conditions, order
  rcases mem with mem | mem | mem | mem | mem | mem
  · exact .inl (qualifier_of_projection mem ▸ main)
  · obtain ⟨load, inPlan, mem⟩ := List.mem_flatMap.1 mem
    rcases qualifier_of_eagerLoad mem with rfl | rfl | pivot
    · exact .inl (relation_mem_labels inPlan)
    · exact .inl main
    · exact .inr (List.mem_append_left _ (List.mem_flatMap.2 ⟨load, inPlan, pivot⟩))
  · simp [tableReferences] at mem
  · obtain ⟨lookup, -, mem⟩ := List.mem_flatMap.1 mem
    cases lookup with
    | primary =>
      obtain ⟨rfl, -⟩ := Reference.column.inj (List.mem_singleton.1 mem)
      exact .inl main
    | primaryOrAlternate =>
      rcases List.mem_cons.1 mem with eq | mem
      · exact .inl ((Reference.column.inj eq).1 ▸ main)
      · exact .inl ((Reference.column.inj (List.mem_singleton.1 mem)).1 ▸ main)
  · obtain ⟨predicate, inPlan, mem⟩ := List.mem_flatMap.1 mem
    cases predicate with
    | filter f =>
      obtain ⟨rfl, -⟩ := Reference.column.inj (List.mem_singleton.1 mem)
      exact .inl main
    | related relation table correlation filters =>
      rcases qualifier_of_related mem with rfl | rfl | pivot
      · exact .inl (related_mem_labels inPlan)
      · exact .inl main
      · exact .inr (List.mem_append_right _ (List.mem_flatMap.2 ⟨_, inPlan, pivot⟩))
  · obtain ⟨key, -, eq⟩ := List.mem_map.1 mem
    exact .inl ((Reference.column.inj eq).1 ▸ main)

/-- Every column of a pivot table is referred to. -/
theorem mem_references_of_pivot (mem : (qualifier, text) ∈ plan.pivotColumns) :
    column qualifier text ∈ plan.references := by
  simp only [references, List.mem_append]
  rcases List.mem_append.1 mem with mem | mem
  · obtain ⟨load, inPlan, pivot⟩ := List.mem_flatMap.1 mem
    refine .inr (.inl (List.mem_flatMap.2 ⟨load, inPlan, ?_⟩))
    simp only [EagerLoad.references, List.mem_append]
    rcases mem_references_of_pivotColumns load.table load.relation pivot with mem | mem
    · exact .inr (.inr (.inl mem))
    · exact .inr (.inl mem)
  · obtain ⟨predicate, inPlan, pivot⟩ := List.mem_flatMap.1 mem
    cases predicate with
    | filter => exact absurd pivot List.not_mem_nil
    | related relation table correlation filters =>
      refine .inr (.inr (.inr (.inr (.inl (List.mem_flatMap.2 ⟨_, inPlan, ?_⟩)))))
      simp only [Predicate.references, List.mem_append]
      rcases mem_references_of_pivotColumns table relation pivot with mem | mem
      · exact .inr (.inl mem)
      · exact .inl mem

/-- Where all texts are names, a plan has a statement when no dotted name qualifies a column that
is not dotted itself. -/
theorem resolves_iff (named : ∀ reference ∈ plan.references, reference.Named) :
    (∀ reference ∈ plan.references, reference.Resolves) ↔
      ∀ qualifier text, column qualifier text ∈ plan.references →
        '.' ∈ text.toList ∨ '.' ∉ qualifier.toList := by
  constructor
  · intro resolves qualifier text mem
    exact (resolves _ mem).2.imp_right fun part => Ident.not_mem_part part (by decide)
  · intro qualified reference mem
    cases reference with
    | name text => exact named _ mem
    | column qualifier text =>
      obtain ⟨qualifierNamed, textNamed⟩ := named _ mem
      exact ⟨textNamed, (qualified _ _ mem).imp_right (Ident.isPart_of_isName qualifierNamed)⟩

/-- The plans with well labelled statements, among those whose texts are names. -/
theorem wellLabelled_iff_of_named (named : ∀ reference ∈ plan.references, reference.Named) :
    (WellLabelled plan.selectSql ∧ WellLabelled plan.sql) ↔ plan.Addressable := by
  constructor
  · -- the inner statement shows every label behind an `AS`, and refers to every pivot column
    rintro ⟨⟨statement, rendered, single⟩, -⟩
    have qualified := (resolves_iff named).1 ((exists_selectSql_iff plan).1 ⟨statement, rendered⟩)
    refine ⟨plain_of_selectSql rendered single, ?_⟩
    rintro ⟨pivot, key⟩ mem
    exact qualified pivot key (mem_references_of_pivot mem)
  · -- no qualifier is dotted where it must not be, so every name resolves
    intro addressable
    have resolves : ∀ reference ∈ plan.references, reference.Resolves := by
      refine (resolves_iff named).2 fun qualifier text mem => ?_
      rcases qualifier_cases mem with label | pivot
      · exact .inr (addressable.labels qualifier label)
      · exact addressable.pivots _ pivot
    obtain ⟨inner, rendered⟩ := (exists_selectSql_iff plan).2 resolves
    obtain ⟨whole, rendered'⟩ := (exists_sql_iff plan).2 resolves
    exact ⟨⟨inner, rendered, singleAliases_of_selectSql addressable.labels rendered⟩,
      whole, rendered', singleAliases_of_sql addressable.labels rendered'⟩

end Plan

/-! ## Conversions -/

namespace Converter

/-- The statements of a conversion are written, with a single name behind every `AS`, exactly when
the plan is addressable: registration alone does not see to it. -/
theorem wellLabelled_iff {converter : Converter} {resourceType : String} {params : RawParams}
    {action : Action} {id : Option String} {conversion : Conversion}
    (h : converter.convert resourceType params action id = .ok conversion) :
    (Plan.WellLabelled conversion.plan.selectSql ∧ Plan.WellLabelled conversion.plan.sql) ↔
      conversion.plan.Addressable := by
  obtain ⟨scope, found, -, rfl⟩ := convert_eq_ok_iff.1 h
  exact Plan.wellLabelled_iff_of_named (Plan.named_ofParams (valid_of_scope found))

/-- No name of the blog is dotted, so the statement of a request for everything is well labelled. -/
theorem wellLabelled_blog :
    ∃ conversion, Example.strict.convert "Post" Example.everything .index none = .ok conversion ∧
      Plan.WellLabelled conversion.plan.selectSql ∧ Plan.WellLabelled conversion.plan.sql := by
  have converted : Example.strict.convert "Post" Example.everything .index none = .ok _ := rfl
  refine ⟨_, converted, (wellLabelled_iff converted).2 ⟨?_, ?_⟩⟩
  · decide +kernel
  · decide +kernel

/-- Posts with tags whose pivot table is named with its schema. -/
def schemaPost : Metadata :=
  { Metadata.basic "post" "posts" with
    selectable := ["id", "title"]
    relations := ⟨[("tags", ⟨"Tag", .manyToMany (some "app.post_tag") none none⟩)], by decide⟩ }

/-- The tags of `schemaPost`. -/
def schemaTag : Metadata :=
  { Metadata.basic "tag" "tags" with selectable := ["id", "label"] }

/-- A blog of these two. -/
def schemaBlog : Converter :=
  ⟨⟨⟨[("Post", schemaPost), ("Tag", schemaTag)], by decide⟩, by decide⟩, Settings.standard⟩

/-- The pivot table cannot qualify its columns, so a request for tags has no statement although both
resources were registered. -/
theorem not_wellLabelled_schemaBlog :
    (Registry.register "Tag" schemaTag >>= fun _ => Registry.register "Post" schemaPost).apply
        .empty = (.ok (), schemaBlog.registry) ∧
      ∃ conversion, schemaBlog.convert "Post" (RawParams.empty.field "tags" (.one "label"))
          .index none = .ok conversion ∧
        ¬(Plan.WellLabelled conversion.plan.selectSql ∧ Plan.WellLabelled conversion.plan.sql) := by
  refine ⟨rfl, _, rfl, ?_⟩
  rintro ⟨⟨statement, written, -⟩, -⟩
  have accepted : (Plan.selectSql _).isOk = true := congrArg Except.isOk written
  exact absurd accepted (by decide +kernel)

end Converter

end Retrieval
