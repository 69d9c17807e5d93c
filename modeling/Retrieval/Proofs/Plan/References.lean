import Retrieval.Proofs.Ident
import Retrieval.Proofs.Plan.Slots

/-!
# The names that a statement refers to

A renderer resolves names one after another and fails at the first that it cannot resolve. The names
of a plan are listed here in the order in which they are resolved (`Plan.references`), each as it
stands: alone, or as a column behind a qualifier. Rendering fails exactly as the first of them does
(`Plan.checks_sql`), so a plan has a statement when all of them resolve (`Plan.exists_sql_iff`).

`Checks` says that a computation fails as the first of some references; it is put together as the
computation is.
-/

namespace Retrieval

/-- A name as it stands in a statement. -/
inductive Reference where
  | name (text : String)
  | column (qualifier text : String)
deriving DecidableEq

namespace Reference

/-- The identifier that a name is written as. -/
def ident : Reference → Except Failure Ident
  | .name text => Ident.get text
  | .column qualifier text => Ident.column qualifier text

/-- Whether a name can be written: a column needs a qualifier of one part, unless it is dotted. -/
def Resolves : Reference → Prop
  | .name text => Ident.isName text
  | .column qualifier text =>
    Ident.isName text ∧ ('.' ∈ text.toList ∨ Ident.isPart qualifier.toList)

end Reference

namespace Reference

/-- A name is written just when it resolves. -/
theorem exists_ident_iff (reference : Reference) :
    (∃ ident, reference.ident = .ok ident) ↔ reference.Resolves := by
  cases reference with
  | name text => exact Ident.exists_get_iff
  | column qualifier text => exact Ident.exists_column_iff

/-- A name is refused for no other reason than being none. -/
theorem badIdent_of_error? {reference : Reference} {failure : Failure}
    (h : reference.ident.error? = some failure) : ∃ error, failure = .badIdent error := by
  have told {x : Except IdentError Ident} (h : (x.mapError Failure.badIdent).error? = some failure) :
      ∃ error, failure = .badIdent error := by
    cases x with
    | error error => exact ⟨error, (Option.some.inj h).symm⟩
    | ok => simp [Except.mapError, Except.error?] at h
  cases reference with
  | name text => exact told h
  | column qualifier text => exact told h

end Reference

/-! ## The names of every part of a plan -/

open Reference (name column)

/-- The names of a projection. -/
def projectionReferences (label : String) (columns : FieldSet) : List Reference :=
  (if columns.isEmpty then [wildcard] else columns.toList).map fun text =>
    if text = wildcard then name label else column label text

/-- The names of a table under an alias. -/
def tableReferences (table label : String) : List Reference := [name table, name label]

/-- The names of a related table, with those of the pivot table if there is one. -/
def Correlation.sourceReferences (correlation : Correlation) (table relation : String) :
    List Reference :=
  tableReferences table relation ++
    match correlation with
    | .manyToMany pivot _ relatedPivotKey _ relatedKey =>
      [name pivot, column pivot relatedPivotKey, column relation relatedKey]
    | _ => []

/-- The two columns that tie a related row to a main row. -/
def Correlation.conditionReferences (correlation : Correlation) (main relation : String) :
    List Reference :=
  match correlation with
  | .toOne foreignKey ownerKey => [column relation ownerKey, column main foreignKey]
  | .toMany foreignKey localKey => [column relation foreignKey, column main localKey]
  | .manyToMany pivot foreignPivotKey _ localKey _ =>
    [column pivot foreignPivotKey, column main localKey]

/-- The names of related rows to load. -/
def EagerLoad.references (load : EagerLoad) (main : String) : List Reference :=
  projectionReferences load.relation load.columns
    ++ (load.correlation.sourceReferences load.table load.relation
    ++ (load.correlation.conditionReferences main load.relation
    ++ ((if load.correlation.isToOne then [] else [column load.relation load.primaryKey])
    ++ [name load.relation])))

/-- The names of a condition. -/
def Predicate.references (predicate : Predicate) (main : String) : List Reference :=
  match predicate with
  | .filter f => [column main f.field]
  | .related relation table correlation filters =>
    correlation.sourceReferences table relation
      ++ (correlation.conditionReferences main relation
      ++ filters.map fun f => column relation f.field)

/-- The names that find a single row. -/
def Lookup.references (lookup : Lookup) (main : String) : List Reference :=
  match lookup with
  | .primary key _ => [column main key]
  | .primaryOrAlternate key alternate _ => [column main key, column main alternate]

/-- The names of a plan in the order in which they are resolved. -/
def Plan.references (plan : Plan) : List Reference :=
  projectionReferences plan.label plan.columns
    ++ (plan.eager.flatMap (·.references plan.label)
    ++ (tableReferences plan.table plan.label
    ++ (plan.lookup.toList.flatMap (·.references plan.label)
    ++ (plan.predicates.flatMap (·.references plan.label)
    ++ plan.sort.map fun key => column plan.label key.field))))

/-! ## Rendering resolves them one after another -/

/-- Whether a computation fails as the first of some names that does not resolve, and only then. -/
def Checks {α : Type} (references : List Reference) (x : Except Failure α) : Prop :=
  x.error? = references.findSome? fun reference => reference.ident.error?

namespace Checks

variable {α β : Type} {references others : List Reference} {x : Except Failure α}

theorem pure (a : α) : Checks [] (pure a : Except Failure α) := rfl

theorem ident (reference : Reference) : Checks [reference] reference.ident := by
  rw [Checks, List.findSome?_singleton]

/-- What is done behind some checks is done only if they pass. -/
theorem bind {f : α → Except Failure β} (h : Checks references x)
    (h' : ∀ a, Checks others (f a)) : Checks (references ++ others) (x >>= f) := by
  rw [Checks, List.findSome?_append, ← h]
  exact Except.error?_bind fun a _ => h' a

/-- What is made of a result cannot fail. -/
theorem map {f : α → β} (h : Checks references x) :
    Checks references (x >>= fun a => Pure.pure (f a)) := by
  have both := h.bind fun a => Checks.pure (f a)
  rwa [List.append_nil] at both

/-- The members of a list are checked in order. -/
theorem mapM {γ : Type} {f : γ → Except Failure β} {each : γ → List Reference} {l : List γ}
    (h : ∀ a ∈ l, Checks (each a) (f a)) : Checks (l.flatMap each) (l.mapM f) := by
  rw [Checks, Except.error?_mapM]
  -- the first member with an error has the first name that does not resolve
  induction l with
  | nil => rfl
  | cons a rest ih =>
    obtain ⟨first, later⟩ := List.forall_mem_cons.1 h
    rw [List.findSome?_cons, List.flatMap_cons, List.findSome?_append, ih later, first]
    cases List.findSome? _ (each a) with
    | none => rfl
    | some => rfl

/-- Whatever fails alike checks the same names. -/
theorem of_agree {Related : β → α → Prop} {y : Except Failure β} (h : Checks references x)
    (same : Except.Agree Related y x) : Checks references y :=
  same.error?_eq.trans h

end Checks

theorem checks_columnFragment (label text : String) :
    Checks [column label text] (columnFragment label text) :=
  .map (.ident (column label text))

theorem checks_projectionFragment (label : String) (columns : FieldSet) :
    Checks (projectionReferences label columns) (projectionFragment label columns) := by
  refine .map ?_
  rw [projectionReferences, List.map_eq_flatMap]
  refine .mapM fun text _ => ?_
  unfold projectedFragment
  split
  · exact .map (.ident (name label))
  · exact checks_columnFragment label text

theorem checks_tableFragment (table label : String) :
    Checks (tableReferences table label) (tableFragment table label) :=
  .bind (.ident (name table)) fun _ => .map (.ident (name label))

theorem checks_sourceFragment (correlation : Correlation) (table relation : String) :
    Checks (correlation.sourceReferences table relation)
      (correlation.sourceFragment table relation) := by
  unfold Correlation.sourceFragment Correlation.sourceReferences
  refine .bind (checks_tableFragment table relation) fun related => ?_
  cases correlation with
  | toOne | toMany => exact .pure related
  | manyToMany pivot foreign related localKey key =>
    exact .bind (.ident (name pivot)) fun _ => .bind (checks_columnFragment pivot related) fun _ =>
      .map (checks_columnFragment relation key)

theorem checks_conditionFragment (correlation : Correlation) (main relation : String) :
    Checks (correlation.conditionReferences main relation)
      (correlation.conditionFragment main relation) := by
  cases correlation with
  | toOne | toMany | manyToMany =>
    exact .bind (checks_columnFragment _ _) fun _ => .map (checks_columnFragment _ _)

theorem checks_orderFragment (load : EagerLoad) :
    Checks (if load.correlation.isToOne then [] else [column load.relation load.primaryKey])
      load.orderFragment := by
  unfold EagerLoad.orderFragment
  split
  · exact .pure _
  · exact .map (checks_columnFragment load.relation load.primaryKey)

/-- A relation is loaded with its names checked from left to right. -/
theorem checks_eagerLoad (load : EagerLoad) (main : String) :
    Checks (load.references main) (load.fragment main) := by
  rw [EagerLoad.references, EagerLoad.fragment]
  refine .bind (checks_projectionFragment load.relation load.columns) fun columns => ?_
  refine .bind (checks_sourceFragment load.correlation load.table load.relation) fun source => ?_
  refine .bind (checks_conditionFragment load.correlation main load.relation) fun condition => ?_
  refine .bind (checks_orderFragment load) fun order => ?_
  exact .map (.ident (name load.relation))

theorem checks_filter (filter : Filter) (label : String) :
    Checks [column label filter.field] (filter.fragment label) :=
  .map (checks_columnFragment label filter.field)

/-- A condition has its names checked from left to right. -/
theorem checks_predicate (predicate : Predicate) (main : String) :
    Checks (predicate.references main) (predicate.fragment main) := by
  cases predicate with
  | filter f => exact checks_filter f main
  | related relation table correlation filters =>
    rw [Predicate.references, Predicate.fragment]
    refine .bind (checks_sourceFragment correlation table relation) fun source => ?_
    refine .bind (checks_conditionFragment correlation main relation) fun condition => ?_
    refine .map ?_
    rw [List.map_eq_flatMap]
    exact .mapM fun f _ => .map (checks_filter f relation)

theorem checks_lookup (lookup : Lookup) (main : String) :
    Checks (lookup.references main) (lookup.fragment main) := by
  cases lookup with
  | primary key value => exact .map (checks_columnFragment main key)
  | primaryOrAlternate key alternate value =>
    exact .bind (checks_columnFragment main key) fun _ => .map (checks_columnFragment main alternate)

theorem checks_sortKey (key : SortKey) (main : String) :
    Checks [column main key.field] (key.fragment main) :=
  .map (checks_columnFragment main key.field)

namespace Plan

variable (plan : Plan)

/-- The inner fragment has the names of the plan checked in order. -/
theorem checks_innerFragment : Checks plan.references plan.innerFragment := by
  rw [references, innerFragment]
  refine .bind (checks_projectionFragment plan.label plan.columns) fun columns => ?_
  refine .bind (.mapM fun load _ => .map (checks_eagerLoad load plan.label)) fun eager => ?_
  refine .bind (checks_tableFragment plan.table plan.label) fun table => ?_
  refine .bind (.mapM fun lookup _ => checks_lookup lookup plan.label) fun lookup => ?_
  refine .bind (.mapM fun predicate _ => checks_predicate predicate plan.label) fun predicates => ?_
  refine .map ?_
  rw [List.map_eq_flatMap]
  exact .mapM fun key _ => checks_sortKey key plan.label

/-- The inner statement has the names of the plan checked in order. -/
theorem checks_selectSql : Checks plan.references plan.selectSql :=
  (checks_innerFragment plan).of_agree (agree_selectSql plan)

/-- The whole statement checks nothing that the inner one does not. -/
theorem checks_sql : Checks plan.references plan.sql :=
  (Checks.map (checks_innerFragment plan)).of_agree (agree_sql plan)

end Plan

/-! ## When there is a statement -/

/-- There is a result just when every name resolves. -/
theorem Checks.exists_iff {α : Type} {references : List Reference} {x : Except Failure α}
    (h : Checks references x) : (∃ a, x = .ok a) ↔ ∀ reference ∈ references, reference.Resolves := by
  rw [← Except.error?_eq_none_iff, h, List.findSome?_eq_none_iff]
  refine forall₂_congr fun reference _ => ?_
  rw [Except.error?_eq_none_iff, Reference.exists_ident_iff]

/-- What is not written has a name that is no identifier where it stands. -/
theorem Checks.badIdent_of_error {α : Type} {references : List Reference} {x : Except Failure α}
    {failure : Failure} (h : Checks references x) (failed : x = .error failure) :
    ∃ error, failure = .badIdent error := by
  rw [Checks, failed] at h
  obtain ⟨reference, -, first⟩ := List.exists_of_findSome?_eq_some h.symm
  exact reference.badIdent_of_error? first

namespace Plan

/-- A plan without a statement has a name that is no identifier where it stands. -/
theorem badIdent_of_sql {plan : Plan} {failure : Failure} (h : plan.sql = .error failure) :
    ∃ error, failure = .badIdent error :=
  (checks_sql plan).badIdent_of_error h

/-- There is an inner statement just when every name of the plan resolves. -/
theorem exists_selectSql_iff (plan : Plan) : (∃ statement, plan.selectSql = .ok statement) ↔
    ∀ reference ∈ plan.references, reference.Resolves :=
  (checks_selectSql plan).exists_iff

/-- There is a statement just when every name of the plan resolves. -/
theorem exists_sql_iff (plan : Plan) : (∃ statement, plan.sql = .ok statement) ↔
    ∀ reference ∈ plan.references, reference.Resolves :=
  (checks_sql plan).exists_iff

end Plan

end Retrieval
