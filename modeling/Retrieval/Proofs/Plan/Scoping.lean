import Retrieval.Proofs.Plan.References
import Retrieval.Proofs.Plan.Compile
import Retrieval.Proofs.Registry

/-!
# The scope of a join

The statement of related rows has names for up to three tables: inside, the related table under the
name of the relation and the pivot table under its own name, and outside the main table under its
alias. An inner name hides an outer one, and a name that two inner tables share stands for neither
(`Join.table?`). A column refers to the table whose name is written in front of it.

The alias of a relation is never that of the main table. The names of a pivot table and of its
columns come from the declaration or from conventions over the names of the two resources, and
nothing compares them with each other, so they may coincide. `Join.Declared` says exactly when they
do, and that the comparisons of a join refer to the tables they are meant for exactly when the name
of the pivot table is neither of the other two.
-/

namespace Retrieval

open Statement (raw ident)

/-! ## Joins of a plan -/

/-- A relation that is joined to the main table of a plan. -/
structure Join where
  main : String
  relation : String
  correlation : Correlation
deriving DecidableEq

/-- The relations that a plan joins, to load their rows or for a condition. -/
def Plan.joins (plan : Plan) : List Join :=
  plan.eager.map (fun load => ⟨plan.label, load.relation, load.correlation⟩) ++
    plan.predicates.filterMap fun
      | .filter _ => none
      | .related relation _ correlation _ => some ⟨plan.label, relation, correlation⟩

namespace Join

/-- The tables that a column of a join may be of. -/
inductive Table where
  | main
  | related
  | pivot
deriving DecidableEq

/-- A column that a join compares. -/
structure Column where
  table : Table
  qualifier : String
  name : String

/-- Two columns that have to be equal. -/
structure Comparison where
  left : Column
  right : Column

/-- The pivot table of a join and its columns. -/
def keys? (join : Join) : Option PivotKeys :=
  match join.correlation with
  | .manyToMany pivot foreign related _ _ => some ⟨pivot, foreign, related⟩
  | _ => none

/-- What ties a row of the pivot table to a related row. -/
def on? (join : Join) : Option Comparison :=
  match join.correlation with
  | .manyToMany pivot _ relatedPivotKey _ relatedKey =>
    some ⟨⟨.pivot, pivot, relatedPivotKey⟩, ⟨.related, join.relation, relatedKey⟩⟩
  | _ => none

/-- What ties a row of the join to a main row. -/
def condition (join : Join) : Comparison :=
  match join.correlation with
  | .toOne foreignKey ownerKey =>
    ⟨⟨.related, join.relation, ownerKey⟩, ⟨.main, join.main, foreignKey⟩⟩
  | .toMany foreignKey localKey =>
    ⟨⟨.related, join.relation, foreignKey⟩, ⟨.main, join.main, localKey⟩⟩
  | .manyToMany pivot foreignPivotKey _ localKey _ =>
    ⟨⟨.pivot, pivot, foreignPivotKey⟩, ⟨.main, join.main, localKey⟩⟩

/-- The columns that a join compares. -/
def columns (join : Join) : List Column :=
  (join.on?.toList ++ [join.condition]).flatMap fun comparison =>
    [comparison.left, comparison.right]

/-- The columns of a join are those that its two comparisons have. -/
theorem mem_columns_iff {join : Join} {column : Column} : column ∈ join.columns ↔
    (∃ on, join.on? = some on ∧ (column = on.left ∨ column = on.right)) ∨
      column = join.condition.left ∨ column = join.condition.right := by
  rw [columns, List.flatMap_append, List.mem_append]
  simp only [List.mem_flatMap, Option.mem_toList, List.flatMap_singleton, List.mem_cons,
    List.not_mem_nil, or_false]

/-- A column has the name of its table in front. -/
theorem qualifier_of_mem_columns {join : Join} {column : Column} (mem : column ∈ join.columns) :
    (column.table = .main ∧ column.qualifier = join.main) ∨
      (column.table = .related ∧ column.qualifier = join.relation) ∨
      (column.table = .pivot ∧ ∃ keys, join.keys? = some keys ∧ column.qualifier = keys.pivot) := by
  obtain ⟨main, relation, correlation⟩ := join
  rw [mem_columns_iff] at mem
  cases correlation with
  | toOne | toMany =>
    rcases mem with ⟨on, tied, -⟩ | rfl | rfl
    · exact absurd tied (by simp [on?])
    · exact .inr (.inl ⟨rfl, rfl⟩)
    · exact .inl ⟨rfl, rfl⟩
  | manyToMany =>
    rcases mem with ⟨on, tied, mem⟩ | rfl | rfl
    · obtain rfl := Option.some.inj tied
      rcases mem with rfl | rfl
      · exact .inr (.inr ⟨rfl, _, rfl, rfl⟩)
      · exact .inr (.inl ⟨rfl, rfl⟩)
    · exact .inr (.inr ⟨rfl, _, rfl, rfl⟩)
    · exact .inl ⟨rfl, rfl⟩

/-- Every join compares a column of the main table and one of the related table. -/
theorem exists_mem_columns (join : Join) :
    (∃ name, ⟨.main, join.main, name⟩ ∈ join.columns) ∧
      ∃ name, ⟨.related, join.relation, name⟩ ∈ join.columns := by
  obtain ⟨main, relation, correlation⟩ := join
  simp only [mem_columns_iff]
  cases correlation with
  | toOne | toMany => exact ⟨⟨_, .inr (.inr rfl)⟩, _, .inr (.inl rfl)⟩
  | manyToMany => exact ⟨⟨_, .inr (.inr rfl)⟩, _, .inl ⟨_, rfl, .inr rfl⟩⟩

/-! ## What is written -/

/-- The identifier that a column is written as. -/
def Column.ident (column : Column) : Except Failure Ident :=
  Ident.column column.qualifier column.name

/-- Two columns as they are compared in a statement. -/
def Comparison.fragment (comparison : Comparison) : Except Failure Statement := do
  return (← columnFragment comparison.left.qualifier comparison.left.name) ++ raw " = "
    ++ (← columnFragment comparison.right.qualifier comparison.right.name)

/-- A comparison is written as its two columns. -/
theorem exists_of_fragment {comparison : Comparison} {statement : Statement}
    (h : comparison.fragment = .ok statement) :
    ∃ left right, comparison.left.ident = .ok left ∧ comparison.right.ident = .ok right ∧
      statement = ident left ++ raw " = " ++ ident right := by
  simp only [Comparison.fragment, columnFragment, Except.bind_eq_ok_iff, Except.pure_eq_ok_iff] at h
  obtain ⟨_, ⟨left, written, rfl⟩, _, ⟨right, written', rfl⟩, rfl⟩ := h
  exact ⟨left, right, written, written', rfl⟩

/-- The condition of a relation is the comparison of the join. -/
theorem conditionFragment_eq (join : Join) :
    join.correlation.conditionFragment join.main join.relation = join.condition.fragment := by
  obtain ⟨main, relation, correlation⟩ := join
  cases correlation <;> rfl

/-- Behind the tables of a many-to-many relation stands what ties them. -/
theorem exists_of_sourceFragment {join : Join} {table : String} {on : Comparison} {source : Statement}
    (tied : join.on? = some on)
    (written : join.correlation.sourceFragment table join.relation = .ok source) :
    ∃ tables comparison, on.fragment = .ok comparison ∧
      source = tables ++ raw " ON " ++ comparison := by
  obtain ⟨main, relation, correlation⟩ := join
  cases correlation with
  | toOne | toMany => exact absurd tied (by simp [on?])
  | manyToMany pivot foreign related localKey relatedKey =>
    obtain rfl := Option.some.inj tied
    simp only [Correlation.sourceFragment, Except.bind_eq_ok_iff, Except.pure_eq_ok_iff] at written
    obtain ⟨tables, -, name, -, left, compared, right, compared', rfl⟩ := written
    refine ⟨tables ++ raw " INNER JOIN " ++ ident name, left ++ raw " = " ++ right, ?_, ?_⟩
    · simp only [Comparison.fragment, compared, compared']
      rfl
    · simp only [Statement.append_assoc]

/-! ## What names stand for -/

/-- The tables inside a join, under the names that they have there. -/
def inner (join : Join) : List (String × Table) :=
  (join.relation, .related) :: join.keys?.toList.map fun keys => (keys.pivot, .pivot)

/-- The table that a name stands for: the one table inside that has it, or the main table if there
is none inside. -/
def table? (join : Join) (name : String) : Option Table :=
  match join.inner.filter (·.1 = name) with
  | [] => if name = join.main then some .main else none
  | [entry] => some entry.2
  | _ => none

/-- The table that a column refers to, by what is written in front of it. -/
def refersTo? (join : Join) (column : Ident) : Option Table :=
  match column.parts with
  | [qualifier, _] => join.table? (String.ofList qualifier)
  | _ => none

/-- Whether every column, as it is written, refers to the table that it is meant to be of. -/
def Refers (join : Join) : Prop :=
  ∀ column ∈ join.columns, ∀ written, column.ident = .ok written →
    join.refersTo? written = some column.table

/-- Whether the names of a join are told apart, and its columns refer as they are meant to. -/
structure WellScoped (join : Join) : Prop where
  relation : join.relation ≠ join.main
  pivot : ∀ keys, join.keys? = some keys → keys.pivot ≠ join.main ∧ keys.pivot ≠ join.relation
  columns : ∀ keys, join.keys? = some keys → keys.foreign ≠ keys.related
  refers : join.Refers

/-- Whether every column is written, and with its qualifier in front. -/
def Qualified (join : Join) : Prop :=
  ∀ column ∈ join.columns, (∃ written, column.ident = .ok written) ∧ '.' ∉ column.name.toList

/-- A column without a dot refers to the table of its qualifier. -/
theorem refersTo?_of_plain (join : Join) {column : Column} {written : Ident}
    (h : column.ident = .ok written) (plain : '.' ∉ column.name.toList) :
    join.refersTo? written = join.table? column.qualifier := by
  have part : Ident.isPart column.qualifier.toList :=
    ((Ident.exists_column_iff.1 ⟨written, h⟩).2).resolve_left plain
  have parts := Ident.parts_of_column h
  have whole : (column.qualifier ++ "." ++ column.name).toList =
      column.qualifier.toList ++ '.' :: column.name.toList := by simp
  rw [if_neg plain, whole, Text.split_append_cons, Text.split_of_not_mem plain,
    Text.split_of_not_mem (Ident.not_mem_part part rfl)] at parts
  rw [refersTo?, parts]
  show join.table? (String.ofList column.qualifier.toList) = _
  rw [String.ofList_toList]

/-- The alias of the relation is that of the related table unless the pivot table takes it. -/
theorem table?_relation_iff (join : Join) : join.table? join.relation = some .related ↔
    ∀ keys, join.keys? = some keys → keys.pivot ≠ join.relation := by
  rw [table?, inner]
  cases join.keys? with
  | none => simp
  | some keys => by_cases same : keys.pivot = join.relation <;> simp [same]

/-- The pivot table can be referred to unless the relation takes its name. -/
theorem table?_pivot_iff {join : Join} {keys : PivotKeys} (own : join.keys? = some keys) :
    join.table? keys.pivot = some .pivot ↔ keys.pivot ≠ join.relation := by
  rw [table?, inner, own]
  by_cases same : join.relation = keys.pivot
  · simp [same]
  · simp [same, Ne.symm same]

/-- The main table is seen where its name is not hidden by a table inside. -/
theorem table?_main_iff (join : Join) : join.table? join.main = some .main ↔
    join.relation ≠ join.main ∧ ∀ keys, join.keys? = some keys → keys.pivot ≠ join.main := by
  rw [table?, inner]
  cases join.keys? with
  | none => by_cases hidden : join.relation = join.main <;> simp [hidden]
  | some keys =>
    by_cases hidden : join.relation = join.main
    · by_cases same : keys.pivot = join.main <;> simp [hidden, same]
    · by_cases same : keys.pivot = join.main <;> simp [hidden, same]

/-- The names of the tables are told apart where no two of them are one. -/
theorem forall_table?_iff (join : Join) :
    (∀ column ∈ join.columns, join.table? column.qualifier = some column.table) ↔
      join.relation ≠ join.main ∧
        ∀ keys, join.keys? = some keys → keys.pivot ≠ join.main ∧ keys.pivot ≠ join.relation := by
  constructor
  · intro stands
    obtain ⟨⟨_, main⟩, _, related⟩ := join.exists_mem_columns
    obtain ⟨apart, unhidden⟩ := join.table?_main_iff.1 (stands _ main)
    have single := join.table?_relation_iff.1 (stands _ related)
    exact ⟨apart, fun keys own => ⟨unhidden keys own, single keys own⟩⟩
  · rintro ⟨apart, pivot⟩ column mem
    rcases qualifier_of_mem_columns mem with ⟨table, name⟩ | ⟨table, name⟩ |
      ⟨table, keys, own, name⟩
    · rw [table, name]
      exact join.table?_main_iff.2 ⟨apart, fun keys own => (pivot keys own).1⟩
    · rw [table, name]
      exact join.table?_relation_iff.2 fun keys own => (pivot keys own).2
    · rw [table, name]
      exact (table?_pivot_iff own).2 (pivot keys own).2

/-- Columns refer to their tables just when the pivot table has a name of its own. -/
theorem refers_iff {join : Join} (apart : join.relation ≠ join.main) (qualified : join.Qualified) :
    join.Refers ↔ ∀ keys, join.keys? = some keys →
      keys.pivot ≠ join.main ∧ keys.pivot ≠ join.relation := by
  have stands : join.Refers ↔
      ∀ column ∈ join.columns, join.table? column.qualifier = some column.table := by
    refine forall₂_congr fun column mem => ?_
    obtain ⟨⟨written, h⟩, plain⟩ := qualified column mem
    constructor
    · intro refers
      rw [← join.refersTo?_of_plain h plain]
      exact refers written h
    · intro stands written h
      rw [join.refersTo?_of_plain h plain, stands]
  rw [stands, forall_table?_iff]
  exact and_iff_right apart

end Join

/-! ## Where names coincide -/

namespace Relation

/-- Whether the pivot table of a relation is given the name of the main resource. -/
def PivotIsMain (relation : Relation) (main : Metadata) : Prop :=
  ∃ foreign related, relation.kind = .manyToMany (some main.name) foreign related

/-- Whether the pivot table of a relation has the name of the relation, given or by convention. -/
def PivotIsRelation (relation : Relation) (main target : Metadata) (name : String) : Prop :=
  ∃ pivot foreign related, relation.kind = .manyToMany pivot foreign related ∧
    match pivot with
    | some given => given = name
    | none => conventionalPivot main.name target.name = name

/-- Whether the two columns of the pivot table have one name, given or by convention. -/
def SharesColumn (relation : Relation) (main target : Metadata) : Prop :=
  ∃ pivot foreign related, relation.kind = .manyToMany pivot foreign related ∧
    match foreign, related with
    | some given, some other => given = other
    | some given, none => given = conventionalKey target.name
    | none, some given => given = conventionalKey main.name
    | none, none => main.name = target.name

/-- Keys by convention are the same only for the same name. -/
theorem conventionalKey_inj {name other : String} :
    conventionalKey name = conventionalKey other ↔ name = other :=
  String.append_left_inj "_id"

/-- The conventional pivot table has a longer name than the main resource. -/
theorem conventionalPivot_ne (main target : String) : conventionalPivot main target ≠ main := by
  have longer (before after : String) : before ++ "_" ++ after ≠ before ∧
      before ++ "_" ++ after ≠ after := by
    have length : (before ++ "_" ++ after).length = before.length + 1 + after.length := by
      rw [String.length_append, String.length_append]
      rfl
    constructor
    all_goals
      intro eq
      rw [eq] at length
      omega
  rw [conventionalPivot]
  split
  · exact (longer main target).1
  · exact (longer target main).2

variable {relation : Relation} {main target : Metadata} {name : String} {keys : PivotKeys}

/-- Whether a relation has a pivot table. -/
def HasPivot (relation : Relation) : Prop :=
  ∃ pivot foreign related, relation.kind = .manyToMany pivot foreign related

/-- No convention names the pivot table as the main one, so it has to be given that name. -/
theorem pivot_eq_main_iff (h : relation.HasPivot) (target : String) :
    (relation.pivotKeys main.name target).pivot = main.name ↔ relation.PivotIsMain main := by
  obtain ⟨pivot, foreign, related, kind⟩ := h
  rw [PivotIsMain, pivotKeys, kind]
  cases pivot with
  | none => simp [conventionalPivot_ne]
  | some given => simp

/-- The pivot table is named as the relation by declaration or by convention. -/
theorem pivot_eq_iff (h : relation.HasPivot) (name : String) :
    (relation.pivotKeys main.name target.name).pivot = name ↔
      relation.PivotIsRelation main target name := by
  obtain ⟨pivot, foreign, related, kind⟩ := h
  rw [PivotIsRelation, pivotKeys, kind]
  cases pivot <;> simp

/-- The columns of the pivot table are one by declaration or by convention. -/
theorem foreign_eq_related_iff (h : relation.HasPivot) :
    (relation.pivotKeys main.name target.name).foreign =
      (relation.pivotKeys main.name target.name).related ↔ relation.SharesColumn main target := by
  obtain ⟨pivot, foreign, related, kind⟩ := h
  rw [SharesColumn, pivotKeys, kind]
  cases foreign with
  | none =>
    cases related with
    | none => simp [conventionalKey_inj]
    | some other => simp [eq_comm]
  | some given => cases related <;> simp

theorem PivotIsMain.hasPivot (h : relation.PivotIsMain main) : relation.HasPivot := by
  obtain ⟨foreign, related, kind⟩ := h
  exact ⟨_, foreign, related, kind⟩

theorem PivotIsRelation.hasPivot (h : relation.PivotIsRelation main target name) :
    relation.HasPivot := by
  obtain ⟨pivot, foreign, related, kind, -⟩ := h
  exact ⟨pivot, foreign, related, kind⟩

theorem SharesColumn.hasPivot (h : relation.SharesColumn main target) : relation.HasPivot := by
  obtain ⟨pivot, foreign, related, kind, -⟩ := h
  exact ⟨pivot, foreign, related, kind⟩

end Relation

/-! ## Joins of conversions -/

namespace Join

/-- What a join has from the declaration of its relation. -/
structure Declared (main : Metadata) (relation : Relation) (target : Metadata) (join : Join) :
    Prop where
  label : join.main = main.name
  correlation : join.correlation = relation.correlation join.relation main target
  apart : join.relation ≠ join.main
  /-- The pivot table has the alias of the main table if it is given that name. -/
  pivot_main : ∀ keys, join.keys? = some keys →
    (keys.pivot = join.main ↔ relation.PivotIsMain main)
  pivot_relation : ∀ keys, join.keys? = some keys →
    (keys.pivot = join.relation ↔ relation.PivotIsRelation main target join.relation)
  columns : ∀ keys, join.keys? = some keys →
    (keys.foreign = keys.related ↔ relation.SharesColumn main target)
  on : ∀ comparison, join.on? = some comparison → ∀ sql table source,
    join.correlation.pushSource sql table join.relation = .ok source →
    ∃ tables left right, comparison.left.ident = .ok left ∧ comparison.right.ident = .ok right ∧
      source.Alike (sql ++ (tables ++ raw " ON " ++ (ident left ++ raw " = " ++ ident right)))
  condition : ∀ sql statement,
    join.correlation.pushCondition sql join.main join.relation = .ok statement →
    ∃ left right, join.condition.left.ident = .ok left ∧ join.condition.right.ident = .ok right ∧
      statement.Alike (sql ++ (ident left ++ raw " = " ++ ident right))
  /-- The columns refer to their tables if the pivot table has neither of the two aliases. -/
  refers : join.Qualified → (join.Refers ↔
    ∀ keys, join.keys? = some keys → keys.pivot ≠ join.main ∧ keys.pivot ≠ join.relation)
  /-- The join is well scoped if neither the declaration nor a convention makes two names one. -/
  wellScoped : join.Qualified → (join.WellScoped ↔ ¬relation.PivotIsMain main ∧
    ¬relation.PivotIsRelation main target join.relation ∧ ¬relation.SharesColumn main target)

variable {join : Join} {main target : Metadata} {relation : Relation} {keys : PivotKeys}

/-- A join has a pivot table just when the relation has one. -/
theorem keys?_eq_some_iff
    (correlation : join.correlation = relation.correlation join.relation main target) :
    join.keys? = some keys ↔
      relation.HasPivot ∧ keys = relation.pivotKeys main.name target.name := by
  rw [keys?, correlation, Relation.correlation, Relation.HasPivot]
  cases kind : relation.kind with
  | toOne | toMany => simp
  | manyToMany pivot foreign related => simp [eq_comm]

section

variable (correlation : join.correlation = relation.correlation join.relation main target)
include correlation

/-- The pivot table has the alias of the main table by the declaration alone. -/
theorem pivot_main_iff (label : join.main = main.name) (own : join.keys? = some keys) :
    keys.pivot = join.main ↔ relation.PivotIsMain main := by
  obtain ⟨has, rfl⟩ := (keys?_eq_some_iff correlation).1 own
  rw [label]
  exact Relation.pivot_eq_main_iff has target.name

/-- The pivot table has the alias of the related table by the declaration or by convention. -/
theorem pivot_relation_iff (own : join.keys? = some keys) :
    keys.pivot = join.relation ↔ relation.PivotIsRelation main target join.relation := by
  obtain ⟨has, rfl⟩ := (keys?_eq_some_iff correlation).1 own
  exact Relation.pivot_eq_iff has join.relation

/-- The two columns of the pivot table are one by the declaration or by convention. -/
theorem columns_eq_iff (own : join.keys? = some keys) :
    keys.foreign = keys.related ↔ relation.SharesColumn main target := by
  obtain ⟨has, rfl⟩ := (keys?_eq_some_iff correlation).1 own
  exact Relation.foreign_eq_related_iff has

/-- The three ways in which two names become one are all that can go wrong with a join. -/
theorem wellScoped_iff (label : join.main = main.name) (apart : join.relation ≠ join.main)
    (qualified : join.Qualified) : join.WellScoped ↔ ¬relation.PivotIsMain main ∧
      ¬relation.PivotIsRelation main target join.relation ∧
      ¬relation.SharesColumn main target := by
  have own (has : relation.HasPivot) : join.keys? = some _ :=
    (keys?_eq_some_iff correlation).2 ⟨has, rfl⟩
  constructor
  · intro well
    refine ⟨fun same => ?_, fun same => ?_, fun same => ?_⟩
    · have keys := own same.hasPivot
      exact (well.pivot _ keys).1 ((pivot_main_iff correlation label keys).2 same)
    · have keys := own same.hasPivot
      exact (well.pivot _ keys).2 ((pivot_relation_iff correlation keys).2 same)
    · have keys := own same.hasPivot
      exact well.columns _ keys ((columns_eq_iff correlation keys).2 same)
  · rintro ⟨main, related, shared⟩
    have pivot : ∀ keys, join.keys? = some keys →
        keys.pivot ≠ join.main ∧ keys.pivot ≠ join.relation := fun keys own =>
      ⟨mt (pivot_main_iff correlation label own).1 main,
        mt (pivot_relation_iff correlation own).1 related⟩
    exact ⟨apart, pivot, fun keys own => mt (columns_eq_iff correlation own).1 shared,
      (refers_iff apart qualified).2 pivot⟩

end

/-- A join with the correlation of its relation is as declared. -/
theorem declared_of_correlation (label : join.main = main.name)
    (apart : join.relation ≠ join.main)
    (correlation : join.correlation = relation.correlation join.relation main target) :
    join.Declared main relation target := by
  constructor
  case label => exact label
  case correlation => exact correlation
  case apart => exact apart
  case pivot_main => exact fun keys own => pivot_main_iff correlation label own
  case pivot_relation => exact fun keys own => pivot_relation_iff correlation own
  case columns => exact fun keys own => columns_eq_iff correlation own
  -- what is pushed says the same as the fragment, which is a comparison of two columns
  case on =>
    intro comparison tied sql table source written
    obtain ⟨added, rendered, same⟩ :=
      (adds_pushSource join.correlation table join.relation).exists_fragment written
    obtain ⟨tables, statement, compared, rfl⟩ := exists_of_sourceFragment tied rendered
    obtain ⟨left, right, first, second, rfl⟩ := exists_of_fragment compared
    exact ⟨tables, left, right, first, second, same⟩
  case condition =>
    intro sql statement written
    obtain ⟨added, rendered, same⟩ :=
      (adds_pushCondition join.correlation join.main join.relation).exists_fragment written
    rw [conditionFragment_eq] at rendered
    obtain ⟨left, right, first, second, rfl⟩ := exists_of_fragment rendered
    exact ⟨left, right, first, second, same⟩
  case refers => exact refers_iff apart
  case wellScoped => exact wellScoped_iff correlation label apart

/-- The columns of a join are among the names of its statement. -/
theorem mem_references_of_mem_columns (table : String) {column : Column}
    (mem : column ∈ join.columns) :
    .column column.qualifier column.name ∈ join.correlation.sourceReferences table join.relation ∨
      .column column.qualifier column.name ∈
        join.correlation.conditionReferences join.main join.relation := by
  obtain ⟨label, relation, correlation⟩ := join
  rw [mem_columns_iff] at mem
  cases correlation with
  | toOne | toMany =>
    rcases mem with ⟨on, tied, -⟩ | rfl | rfl
    · exact absurd tied (by simp [on?])
    all_goals exact .inr (by simp [Correlation.conditionReferences, Join.condition])
  | manyToMany =>
    rcases mem with ⟨on, tied, mem⟩ | rfl | rfl
    · obtain rfl := Option.some.inj tied
      rcases mem with rfl | rfl
      all_goals exact .inl (by simp [Correlation.sourceReferences])
    all_goals exact .inr (by simp [Correlation.conditionReferences, Join.condition])

end Join

namespace Plan

variable {scope : Scope} {settings : Settings} {params : RawParams} {action : Action}
  {id : Option String}

/-- The joins of a plan are those of its loads and of its conditions. -/
theorem mem_joins_iff {plan : Plan} {join : Join} : join ∈ plan.joins ↔
    (∃ load ∈ plan.eager, ⟨plan.label, load.relation, load.correlation⟩ = join) ∨
      ∃ relation table correlation filters,
        .related relation table correlation filters ∈ plan.predicates ∧
          ⟨plan.label, relation, correlation⟩ = join := by
  rw [joins, List.mem_append, List.mem_map, List.mem_filterMap]
  refine or_congr_right ⟨?_, ?_⟩
  · rintro ⟨predicate, mem, eq⟩
    cases predicate with
    | filter => exact absurd eq (by simp)
    | related relation table correlation filters =>
      exact ⟨relation, table, correlation, filters, mem, Option.some.inj eq⟩
  · rintro ⟨relation, table, correlation, filters, mem, rfl⟩
    exact ⟨_, mem, rfl⟩

/-- Where the statement of a plan is written, so are the columns of its joins. -/
theorem exists_ident_of_mem_joins {plan : Plan} {statement : Statement}
    (written : plan.sql = .ok statement) {join : Join} (mem : join ∈ plan.joins)
    {column : Join.Column} (compared : column ∈ join.columns) :
    ∃ ident, column.ident = .ok ident := by
  have resolves := (exists_sql_iff plan).1 ⟨statement, written⟩
  refine Ident.exists_column_iff.2 (resolves (.column column.qualifier column.name) ?_)
  simp only [references, List.mem_append, List.mem_flatMap]
  rcases mem_joins_iff.1 mem with ⟨load, loaded, rfl⟩ |
    ⟨key, table, correlation, filters, asked, rfl⟩
  · have named := Join.mem_references_of_mem_columns load.table compared
    refine .inr (.inl ⟨load, loaded, ?_⟩)
    simp only [EagerLoad.references, List.mem_append]
    exact .inr (named.imp_right .inl)
  · have named := Join.mem_references_of_mem_columns table compared
    refine .inr (.inr (.inr (.inr (.inl ⟨_, asked, ?_⟩))))
    simp only [Predicate.references, List.mem_append]
    exact named.imp_right .inl

/-- Every join of the plan of parameters is as declared. -/
theorem declared_of_mem_joins (valid : scope.main.Valid) {join : Join}
    (mem : join ∈ (ofParams scope settings params action id).joins) :
    ∃ relation target, scope.related? join.relation = some (relation, target) ∧
      join.Declared scope.main relation target := by
  rcases mem_joins_iff.1 mem with ⟨load, loaded, rfl⟩ |
    ⟨key, table, correlation, filters, asked, rfl⟩
  · obtain ⟨relation, target, loads⟩ := loads_of_mem_eager valid loaded
    exact ⟨relation, target, loads.related,
      Join.declared_of_correlation rfl loads.relational loads.correlation⟩
  · obtain ⟨relational, relation, target, related, -, tied, -⟩ := asks_of_mem_predicates asked
    exact ⟨relation, target, related, Join.declared_of_correlation rfl relational tied⟩

end Plan

namespace Example

/-- Users have friends among them, groups whose key is dotted, and roles: once under the name of the
conventional pivot table, and once through a pivot table with the name of the main resource. -/
def people : List (String × Metadata) :=
  [("Group", { Metadata.basic "group" "groups" with
      primaryKey := "group.id", selectable := ["title"] }),
    ("Role", { Metadata.basic "role" "roles" with selectable := ["title"] }),
    ("User", { Metadata.basic "user" "users" with
      selectable := ["id", "name"]
      relations := ⟨[("friends", ⟨"User", .manyToMany none none none⟩),
        ("groups", ⟨"Group", .manyToMany none none none⟩),
        ("role_user", ⟨"Role", .manyToMany none none none⟩),
        ("roles", ⟨"Role", .manyToMany (some "user") none none⟩)], by decide⟩ })]

/-- A request for all that users are related to. -/
def acquaintances : RawParams :=
  { RawParams.empty with
    fields := ⟨[("friends", .one "name"), ("groups", .one "title"), ("role_user", .one "title"),
      ("roles", .one "title")], by decide⟩ }

end Example

namespace Converter

/-- The names of every join of a conversion come from the declaration and the conventions, and are
written if there is a statement. Where they coincide, the join is not well scoped. -/
theorem declared_of_convert {converter : Converter} {resourceType : String} {params : RawParams}
    {action : Action} {id : Option String} {conversion : Conversion}
    (h : converter.convert resourceType params action id = .ok conversion) :
    ∀ join ∈ conversion.plan.joins, (∃ main relation target,
      converter.registry.find? resourceType = some main ∧
      main.relation? join.relation = some relation ∧
      converter.registry.find? relation.target = some target ∧
      join.Declared main relation target) ∧
      ((∃ statement, conversion.plan.sql = .ok statement) →
        ∀ column ∈ join.columns, ∃ ident, column.ident = .ok ident) := by
  obtain ⟨scope, inScope, -, rfl⟩ := convert_eq_ok_iff.1 h
  obtain ⟨found, registry, -⟩ := scope_eq_ok_iff.1 inScope
  intro join mem
  refine ⟨?_, fun ⟨statement, written⟩ column => Plan.exists_ident_of_mem_joins written mem⟩
  obtain ⟨relation, target, related, declared⟩ :=
    Plan.declared_of_mem_joins (valid_of_scope inScope) mem
  obtain ⟨named, registered⟩ := Scope.related?_eq_some_iff.1 related
  rw [registry] at registered
  exact ⟨scope.main, relation, target, found, named, registered, declared⟩

/-- Every kind of relation, with a condition on the tags. The names of the blog are told apart, so
every column refers to its table. -/
theorem declared_of_convert_blog :
    ∃ conversion, Example.strict.convert "Post" Example.everything .index none = .ok conversion ∧
      conversion.plan.joins =
        [⟨"post", "author", .toOne "author_id" "id"⟩, ⟨"post", "comments", .toMany "post_id" "id"⟩,
          ⟨"post", "tags", .manyToMany "post_tag" "post_id" "tag_id" "id" "id"⟩,
          ⟨"post", "tags", .manyToMany "post_tag" "post_id" "tag_id" "id" "id"⟩] ∧
      ∀ join ∈ conversion.plan.joins, join.WellScoped := by
  obtain ⟨conversion, converted, rendered, joins⟩ : ∃ conversion,
      Example.strict.convert "Post" Example.everything .index none = .ok conversion ∧
      conversion.plan.sql.error? = none ∧ conversion.plan.joins =
        [⟨"post", "author", .toOne "author_id" "id"⟩, ⟨"post", "comments", .toMany "post_id" "id"⟩,
          ⟨"post", "tags", .manyToMany "post_tag" "post_id" "tag_id" "id" "id"⟩,
          ⟨"post", "tags", .manyToMany "post_tag" "post_id" "tag_id" "id" "id"⟩] :=
    ⟨_, rfl, by decide +kernel, by decide +kernel⟩
  have plain : ∀ join ∈ conversion.plan.joins, ∀ column ∈ join.columns,
      '.' ∉ column.name.toList := by
    rw [joins]
    decide +kernel
  have apart : ∀ join ∈ conversion.plan.joins, ∀ keys ∈ join.keys?.toList,
      (keys.pivot ≠ join.main ∧ keys.pivot ≠ join.relation) ∧ keys.foreign ≠ keys.related := by
    rw [joins]
    decide +kernel
  refine ⟨conversion, converted, joins, fun join mem => ?_⟩
  obtain ⟨⟨main, relation, target, -, -, -, declared⟩, written⟩ :=
    declared_of_convert converted join mem
  have qualified : join.Qualified := fun column compared =>
    ⟨written (Except.error?_eq_none_iff.1 rendered) column compared, plain join mem column compared⟩
  have apart : ∀ keys, join.keys? = some keys → _ := fun keys own =>
    apart join mem keys (Option.mem_toList.2 own)
  exact ⟨declared.apart, fun keys own => (apart keys own).1, fun keys own => (apart keys own).2,
    (declared.refers qualified).2 fun keys own => (apart keys own).1⟩

/-- None of the joins of people is well scoped, though every description is accepted and the
statement is written. -/
theorem not_wellScoped_people :
    (Example.people.forM fun call => Registry.register call.1 call.2).apply .empty =
      (.ok (), .ofCalls Example.people) ∧
    ∃ conversion, (Converter.mk (.ofCalls Example.people) Settings.standard).convert "User"
        Example.acquaintances .index none = .ok conversion ∧
      (∃ statement, conversion.plan.sql = .ok statement) ∧
      conversion.plan.joins =
        [⟨"user", "friends", .manyToMany "user_user" "user_id" "user_id" "id" "id"⟩,
          ⟨"user", "groups", .manyToMany "group_user" "user_id" "group_id" "id" "group.id"⟩,
          ⟨"user", "role_user", .manyToMany "role_user" "user_id" "role_id" "id" "id"⟩,
          ⟨"user", "roles", .manyToMany "user" "user_id" "role_id" "id" "id"⟩] ∧
      ∀ join ∈ conversion.plan.joins, ¬join.WellScoped := by
  obtain ⟨conversion, converted, written, joins⟩ : ∃ conversion,
      (Converter.mk (.ofCalls Example.people) Settings.standard).convert "User"
        Example.acquaintances .index none = .ok conversion ∧
      conversion.plan.sql.error? = none ∧ conversion.plan.joins =
        [⟨"user", "friends", .manyToMany "user_user" "user_id" "user_id" "id" "id"⟩,
          ⟨"user", "groups", .manyToMany "group_user" "user_id" "group_id" "id" "group.id"⟩,
          ⟨"user", "role_user", .manyToMany "role_user" "user_id" "role_id" "id" "id"⟩,
          ⟨"user", "roles", .manyToMany "user" "user_id" "role_id" "id" "id"⟩] :=
    ⟨_, rfl, by decide +kernel, by decide +kernel⟩
  refine ⟨rfl, conversion, converted, Except.error?_eq_none_iff.1 written, joins, ?_⟩
  rw [joins]
  simp only [List.forall_mem_cons, List.not_mem_nil, false_imp_iff, implies_true, and_true]
  refine ⟨fun friends => ?_, fun groups => ?_, fun own => ?_, fun roles => ?_⟩
  · exact friends.columns _ rfl rfl
  · -- the key is written as it is, and no table has the name in front of it
    have lost := groups.refers ⟨.related, "groups", "group.id"⟩ (.tail _ (.head _)) _ rfl
    exact absurd lost (by decide +kernel)
  · exact (own.pivot _ rfl).2 rfl
  · exact (roles.pivot _ rfl).1 rfl

end Converter

end Retrieval
