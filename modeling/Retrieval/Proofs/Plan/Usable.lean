import Retrieval.Proofs.Plan.Scoping

/-!
# Which plans have a statement

The names of a plan may be any texts. A table, an alias or a relation can be written if it is a
name; a column can be written where it stands, which for a plain one takes a qualifier of one part
(`Stands`). `Plan.Usable` asks this of every part of a plan, each part of what it alone refers to:
the wildcard of a projection is no column, only a load of several rows is ordered by its primary
key, and only some joins have a pivot table.

Rendering resolves the names of `Plan.references` from left to right. That those resolve says the
same as `Plan.Usable`, part by part (`Plan.forall_references_iff`), although a name that is written
several times is asked for only once.
-/

namespace Retrieval

open Statement (raw bound)

/-- Whether a column can be written behind a qualifier: it is a name, and unless it is dotted the
qualifier is a single part. -/
def Stands (qualifier column : String) : Prop :=
  Ident.isName column ∧ ('.' ∈ column.toList ∨ Ident.isPart qualifier.toList)

/-- Whether a related table, and the pivot table if there is one, can be joined. -/
structure Join.Usable (join : Join) (table : String) : Prop where
  table : Ident.isName table
  relation : Ident.isName join.relation
  pivot : ∀ keys, join.keys? = some keys → Ident.isName keys.pivot
  columns : ∀ column ∈ join.columns, Stands column.qualifier column.name

/-- Whether the columns of a projection stand behind an alias. -/
def FieldSet.Usable (columns : FieldSet) (label : String) : Prop :=
  ∀ column ∈ columns, column ≠ wildcard → Stands label column

/-- Whether related rows can be loaded. -/
structure EagerLoad.Usable (load : EagerLoad) (main : String) : Prop where
  join : Join.Usable ⟨main, load.relation, load.correlation⟩ load.table
  columns : load.columns.Usable load.relation
  /-- Several rows are ordered by their key, which stands there too. -/
  primaryKey : load.correlation.isToOne = false → Stands load.relation load.primaryKey

/-- Whether a condition can be written. -/
def Predicate.Usable (main : String) : Predicate → Prop
  | .filter f => Stands main f.field
  | .related relation table correlation filters =>
    Join.Usable ⟨main, relation, correlation⟩ table ∧ ∀ f ∈ filters, Stands relation f.field

/-- Whether a single row can be looked up. -/
def Lookup.Usable (main : String) : Lookup → Prop
  | .primary key _ => Stands main key
  | .primaryOrAlternate key alternate _ => Stands main key ∧ Stands main alternate

/-- Whether every name of a plan can be written where it stands. -/
structure Plan.Usable (plan : Plan) : Prop where
  table : Ident.isName plan.table
  label : Ident.isName plan.label
  columns : plan.columns.Usable plan.label
  eager : ∀ load ∈ plan.eager, load.Usable plan.label
  lookup : ∀ lookup ∈ plan.lookup, lookup.Usable plan.label
  predicates : ∀ predicate ∈ plan.predicates, predicate.Usable plan.label
  sort : ∀ key ∈ plan.sort, Stands plan.label key.field

/-! ## Usable parts are those whose names resolve -/

namespace Reference

instance : DecidablePred Resolves
  | .name text => inferInstanceAs (Decidable (Ident.isName text))
  | .column qualifier text =>
    inferInstanceAs (Decidable (Ident.isName text ∧
      ('.' ∈ text.toList ∨ Ident.isPart qualifier.toList)))

@[simp] theorem resolves_name {text : String} : (name text).Resolves ↔ Ident.isName text := .rfl

@[simp] theorem resolves_column {qualifier text : String} :
    (column qualifier text).Resolves ↔ Stands qualifier text := .rfl

end Reference

open Reference (name column)

/-- A wildcard asks for no more than the alias. -/
theorem forall_projectionReferences_iff {label : String} (named : Ident.isName label)
    (columns : FieldSet) :
    (∀ reference ∈ projectionReferences label columns, reference.Resolves) ↔
      columns.Usable label := by
  have each (text : String) :
      (if text = wildcard then name label else column label text).Resolves ↔
        (text ≠ wildcard → Stands label text) := by
    split
    case isTrue star => exact iff_of_true named fun other => absurd star other
    case isFalse other => exact ⟨fun stands _ => stands, fun stands => stands other⟩
  rw [projectionReferences, List.forall_mem_map]
  simp only [each]
  split
  case isTrue none =>
    -- the wildcard stands for the columns that there are not
    have bare : columns.toList = [] := List.isEmpty_iff.1 none
    refine iff_of_true (fun text star other => ?_) (fun text mem => ?_)
    · exact absurd (List.mem_singleton.1 star) other
    · rw [FieldSet.mem_iff, bare] at mem
      exact absurd mem List.not_mem_nil
  case isFalse => exact .rfl

/-- What a join refers to is its tables and the columns that it compares. -/
theorem Join.forall_references_iff (join : Join) (table : String) :
    (∀ reference ∈ join.correlation.sourceReferences table join.relation ++
        join.correlation.conditionReferences join.main join.relation, reference.Resolves) ↔
      join.Usable table := by
  have parts : join.Usable table ↔ Ident.isName table ∧ Ident.isName join.relation ∧
      (∀ keys, join.keys? = some keys → Ident.isName keys.pivot) ∧
        ∀ column ∈ join.columns, Stands column.qualifier column.name :=
    ⟨fun usable => ⟨usable.table, usable.relation, usable.pivot, usable.columns⟩,
      fun ⟨table, relation, pivot, columns⟩ => ⟨table, relation, pivot, columns⟩⟩
  rw [parts]
  obtain ⟨main, relation, correlation⟩ := join
  cases correlation with
  | toOne | toMany | manyToMany =>
    simp [Correlation.sourceReferences, Correlation.conditionReferences, tableReferences, keys?,
      columns, on?, condition]

/-- The names that a relation is loaded with resolve just when it can be loaded. -/
theorem EagerLoad.forall_references_iff (load : EagerLoad) (main : String) :
    (∀ reference ∈ load.references main, reference.Resolves) ↔ load.Usable main := by
  have join := Join.forall_references_iff ⟨main, load.relation, load.correlation⟩ load.table
  have ordered : (∀ reference ∈ if load.correlation.isToOne then []
      else [column load.relation load.primaryKey], reference.Resolves) ↔
        (load.correlation.isToOne = false → Stands load.relation load.primaryKey) := by
    cases load.correlation.isToOne with
    | true => simp
    | false => simp
  rw [List.forall_mem_append] at join
  simp only [references, List.forall_mem_append, List.forall_mem_singleton, Reference.resolves_name,
    ordered]
  constructor
  · rintro ⟨columns, source, condition, key, named⟩
    exact ⟨join.1 ⟨source, condition⟩, (forall_projectionReferences_iff named _).1 columns, key⟩
  · intro usable
    have named : Ident.isName load.relation := usable.join.relation
    obtain ⟨source, condition⟩ := join.2 usable.join
    exact ⟨(forall_projectionReferences_iff named _).2 usable.columns, source, condition,
      usable.primaryKey, named⟩

/-- The names of a condition resolve just when it can be written. -/
theorem Predicate.forall_references_iff (predicate : Predicate) (main : String) :
    (∀ reference ∈ predicate.references main, reference.Resolves) ↔ predicate.Usable main := by
  cases predicate with
  | filter f => exact List.forall_mem_singleton
  | related relation table correlation filters =>
    rw [references, ← List.append_assoc, List.forall_mem_append, List.forall_mem_map,
      Join.forall_references_iff ⟨main, relation, correlation⟩ table]
    exact .rfl

/-- The names of a lookup resolve just when it can be written. -/
theorem Lookup.forall_references_iff (lookup : Lookup) (main : String) :
    (∀ reference ∈ lookup.references main, reference.Resolves) ↔ lookup.Usable main := by
  cases lookup with
  | primary => exact List.forall_mem_singleton
  | primaryOrAlternate => simp [references, Usable]

/-- The names of a plan resolve exactly when each of its parts can be written. -/
theorem Plan.forall_references_iff (plan : Plan) :
    (∀ reference ∈ plan.references, reference.Resolves) ↔ plan.Usable := by
  simp only [references, tableReferences, List.forall_mem_append, List.forall_mem_flatMap,
    List.forall_mem_map, List.forall_mem_cons, EagerLoad.forall_references_iff,
    Predicate.forall_references_iff, Lookup.forall_references_iff, Option.mem_toList]
  constructor
  · rintro ⟨columns, eager, ⟨table, label, -⟩, lookup, predicates, sort⟩
    exact ⟨table, label, (forall_projectionReferences_iff label _).1 columns, eager, lookup,
      predicates, sort⟩
  · intro usable
    exact ⟨(forall_projectionReferences_iff usable.label _).2 usable.columns, usable.eager,
      ⟨usable.table, usable.label, List.forall_mem_nil _⟩, usable.lookup, usable.predicates,
      usable.sort⟩

namespace Plan

instance (plan : Plan) : Decidable plan.Usable :=
  decidable_of_iff _ plan.forall_references_iff

/-! ## The statement around the inner one -/

/-- The text that bounds the number of rows behind a number of placeholders: one row for a lookup,
else the two placeholders of the page if there is one. -/
def windowText (plan : Plan) (count : Nat) : String :=
  if plan.isSingle then " LIMIT 1"
  else match plan.window with
    | none => ""
    | some _ => " LIMIT " ++ s!"${count + 1}" ++ " OFFSET " ++ s!"${count + 2}"

/-- The bounds of a page are numbered behind the values of the plan. -/
theorem textFrom_boundsFragment (plan : Plan) (count : Nat) :
    Statement.textFrom count plan.boundsFragment.parts = plan.windowText count := by
  rw [boundsFragment, windowText]
  split
  · rfl
  · cases plan.window with
    | none => rfl
    | some window =>
      simp [raw, bound, Statement.textFrom, String.append_assoc]

/-- The whole text is that of the inner statement, wrapped and bounded. -/
theorem text_of_sql {plan : Plan} {inner whole : Statement} (h : plan.selectSql = .ok inner)
    (h' : plan.sql = .ok whole) : whole.text =
      "SELECT row_to_json(t) FROM (" ++ inner.text ++ plan.windowText inner.placeholders ++
        ") AS t" := by
  obtain ⟨same, written, rfl⟩ := exists_of_sql h'
  obtain rfl : same = inner := Except.ok.inj (written.symm.trans h)
  have pieces : (raw "SELECT row_to_json(t) FROM (" ++ same ++ plan.boundsFragment ++
      raw ") AS t").parts = .text "SELECT row_to_json(t) FROM (" ::
        (same.parts ++ (plan.boundsFragment.parts ++ [.text ") AS t"])) := by
    simp only [raw, Statement.parts_append, List.append_assoc, List.cons_append, List.nil_append]
  rw [(alike_enclosed plan (.refl same)).text, Statement.text, pieces, Statement.textFrom,
    Statement.textFrom_append, Statement.textFrom_append, textFrom_boundsFragment, Nat.zero_add]
  simp only [Statement.textFrom, String.append_empty, String.append_assoc]
  rfl

/-- The whole statement and the inner one are written for the same plans, those whose every name can
be written where it stands. For other plans both fail, and the failure names what is no identifier.
The whole statement is the inner one with the bounds on the number of rows. -/
theorem rendered_iff_usable (plan : Plan) :
    ((∃ whole, plan.sql = .ok whole) ↔ ∃ inner, plan.selectSql = .ok inner) ∧
      ((∃ inner, plan.selectSql = .ok inner) ↔ plan.Usable) ∧
      (∀ failure, plan.sql = .error failure ∨ plan.selectSql = .error failure →
        ∃ error, failure = .badIdent error ∧
          failure.message = Failure.validation error.message) ∧
      ∀ inner whole, plan.selectSql = .ok inner → plan.sql = .ok whole →
        whole.text = "SELECT row_to_json(t) FROM (" ++ inner.text ++
          plan.windowText inner.placeholders ++ ") AS t" := by
  have usable := plan.forall_references_iff
  refine ⟨plan.exists_sql_iff.trans plan.exists_selectSql_iff.symm,
    plan.exists_selectSql_iff.trans usable, fun failure failed => ?_,
    fun inner whole => text_of_sql⟩
  obtain ⟨error, rfl⟩ : ∃ error, failure = .badIdent error :=
    failed.elim (checks_sql plan).badIdent_of_error (checks_selectSql plan).badIdent_of_error
  exact ⟨error, rfl, rfl⟩

/-- A plan with a dotted alias: its columns are dotted as well, and what is no name is not
written. -/
def dotted : Plan :=
  { resourceType := "Post", table := "app.posts", label := "app.post"
    columns := .ofList ["*", "posts.title"]
    eager := [⟨"author", "users", "no key", ∅, .toOne "posts.author_id" "id", none⟩]
    predicates := [.filter ⟨"posts.price", .ge, some "10"⟩]
    sort := [⟨"posts.title", .ascending⟩]
    lookup := none, window := some ⟨2, 20⟩ }

/-- The same plan with a plain column, which cannot stand behind the dotted alias. -/
def undotted : Plan := { dotted with columns := .ofList ["title"] }

/-- A plan with names of two parts in all places that take one, and a plan with one that takes none.
-/
theorem rendered_iff_usable_dotted :
    (∃ inner whole, dotted.selectSql = .ok inner ∧ dotted.sql = .ok whole ∧ dotted.Usable ∧
      whole.text = "SELECT row_to_json(t) FROM (" ++ inner.text ++ " LIMIT $2 OFFSET $3" ++
        ") AS t") ∧
      ¬ undotted.Usable ∧ ∃ failure, undotted.sql = .error failure ∧
        failure.message = "Validation error: Invalid character '.' in identifier 'app.post'" := by
  have counted : dotted.selectSql.map Statement.placeholders = .ok 1 := by decide +kernel
  have failed : undotted.sql = .error (.badIdent (.badChar '.' "app.post")) := by decide +kernel
  obtain ⟨written, usable, -, text⟩ := rendered_iff_usable dotted
  obtain ⟨inner, selected, one⟩ := Except.map_eq_ok_iff.1 counted
  obtain ⟨whole, rendered⟩ := written.2 ⟨inner, selected⟩
  have bounds : dotted.windowText inner.placeholders = " LIMIT $2 OFFSET $3" := by
    rw [one]
    decide
  refine ⟨⟨inner, whole, selected, rendered, usable.1 ⟨inner, selected⟩, ?_⟩, fun usable => ?_, _,
    failed, ?_⟩
  · rw [← bounds]
    exact text inner whole selected rendered
  · obtain ⟨statement, written⟩ :=
      (rendered_iff_usable undotted).1.2 ((rendered_iff_usable undotted).2.1.2 usable)
    exact absurd (failed.symm.trans written) (by simp)
  · obtain ⟨error, same, message⟩ := (rendered_iff_usable undotted).2.2.1 _ (.inl failed)
    rw [message, ← Failure.badIdent.inj same]
    decide

-- several rows are ordered by their key, which a single row is not
example : ¬ Usable { dotted with
    eager := [⟨"tags", "tags", "no key", ∅, .toMany "post_id" "posts.id", none⟩] } := by
  decide

end Plan

end Retrieval
