import Retrieval.Plan.Rendering
import Retrieval.Proofs.Except
import Retrieval.Proofs.Statement

/-!
# Statements in fragments

The statement of a plan is written from left to right, but what a part of the plan adds to it does
not depend on what stands before. So the statement says what the fragments of its parts say when
they are put together (`Plan.fragment`), and what is true of the statement is shown fragment by
fragment.

That a renderer adds a fragment (`Adds`) is shown along the renderer, once for each: it resolves the
same names in the same order and writes the same things behind each other.
-/

namespace Retrieval

open Except (Agree)
open Statement (Alike raw ident bound joined)

/-! ## The fragments of a plan -/

/-- A column behind an alias. -/
def columnFragment (label column : String) : Except Failure Statement :=
  return ident (← Ident.column label column)

/-- One column of a projection; the star stands for every column of the table. -/
def projectedFragment (label column : String) : Except Failure Statement :=
  if column = wildcard then return ident (← Ident.get label) ++ raw ".*"
  else columnFragment label column

/-- The columns of a projection; without columns, every column of the table. -/
def projectionFragment (label : String) (columns : FieldSet) : Except Failure Statement :=
  return joined ", "
    (← (if columns.isEmpty then [wildcard] else columns.toList).mapM (projectedFragment label))

/-- A table under an alias. -/
def tableFragment (table label : String) : Except Failure Statement :=
  return ident (← Ident.get table) ++ raw " AS " ++ ident (← Ident.get label)

namespace Correlation

/-- The related table under the name of the relation, joined to the pivot table if there is one. -/
def sourceFragment (correlation : Correlation) (table relation : String) :
    Except Failure Statement := do
  let related ← tableFragment table relation
  match correlation with
  | manyToMany pivot _ relatedPivotKey _ relatedKey =>
    return related ++ raw " INNER JOIN " ++ ident (← Ident.get pivot) ++ raw " ON "
      ++ (← columnFragment pivot relatedPivotKey) ++ raw " = "
      ++ (← columnFragment relation relatedKey)
  | _ => return related

/-- The condition that ties a related row to the main row. -/
def conditionFragment (correlation : Correlation) (main relation : String) :
    Except Failure Statement := do
  match correlation with
  | toOne foreignKey ownerKey =>
    return (← columnFragment relation ownerKey) ++ raw " = " ++ (← columnFragment main foreignKey)
  | toMany foreignKey localKey =>
    return (← columnFragment relation foreignKey) ++ raw " = " ++ (← columnFragment main localKey)
  | manyToMany pivot foreignPivotKey _ localKey _ =>
    return (← columnFragment pivot foreignPivotKey) ++ raw " = " ++ (← columnFragment main localKey)

end Correlation

/-- The bound of the number of related rows. -/
def limitFragment : Option UInt64 → Statement
  | none => .empty
  | some limit => raw " LIMIT " ++ bound (boundCount limit)

namespace EagerLoad

/-- The opening of related rows. -/
def opening (load : EagerLoad) : String :=
  if load.correlation.isToOne then "(SELECT row_to_json(r) FROM (SELECT "
  else "(SELECT COALESCE(json_agg(r), '[]'::json) FROM (SELECT "

/-- What is written behind the condition of related rows: one row, or an order and a bound. -/
def orderFragment (load : EagerLoad) : Except Failure Statement :=
  if load.correlation.isToOne then return raw " LIMIT 1"
  else return raw " ORDER BY " ++ (← columnFragment load.relation load.primaryKey)
    ++ limitFragment load.limit

/-- The related rows of a main row as one JSON value. -/
def fragment (load : EagerLoad) (main : String) : Except Failure Statement := do
  let columns ← projectionFragment load.relation load.columns
  let source ← load.correlation.sourceFragment load.table load.relation
  let condition ← load.correlation.conditionFragment main load.relation
  let order ← load.orderFragment
  return raw load.opening ++ columns ++ raw " FROM " ++ source ++ raw " WHERE " ++ condition
    ++ order ++ raw ") AS r) AS " ++ ident (← Ident.get load.relation)

end EagerLoad

/-- A filter on a column behind an alias. -/
def Filter.fragment (filter : Filter) (label : String) : Except Failure Statement := do
  return (← columnFragment label filter.field) ++ raw " " ++ raw filter.op.sql ++
    match filter.value with
    | none => .empty
    | some value => raw " " ++ bound (.text value)

/-- A condition on main rows. -/
def Predicate.fragment (predicate : Predicate) (main : String) : Except Failure Statement := do
  match predicate with
  | filter f => f.fragment main
  | related relation table correlation filters =>
    let source ← correlation.sourceFragment table relation
    let condition ← correlation.conditionFragment main relation
    let rest ← filters.mapM fun filter => return raw " AND " ++ (← filter.fragment relation)
    return raw "EXISTS (SELECT 1 FROM " ++ source ++ raw " WHERE " ++ condition
      ++ rest.foldr (· ++ ·) .empty ++ raw ")"

/-- The condition that finds a single row. -/
def Lookup.fragment (lookup : Lookup) (main : String) : Except Failure Statement := do
  match lookup with
  | primary key value => return (← columnFragment main key) ++ raw " = " ++ bound (.text value)
  | primaryOrAlternate key alternate value =>
    return raw "(" ++ (← columnFragment main key) ++ raw "::text = " ++ bound (.text value)
      ++ raw " OR " ++ (← columnFragment main alternate) ++ raw " = " ++ bound (.text value)
      ++ raw ")"

/-- A sort key on a column behind an alias. -/
def SortKey.fragment (key : SortKey) (main : String) : Except Failure Statement := do
  return (← columnFragment main key.field) ++ raw " " ++ raw key.direction.sql

/-- A clause that is written only if it has members. -/
def clauseFragment (opening separator : String) (members : List Statement) : Statement :=
  if members.isEmpty then .empty else raw opening ++ joined separator members

namespace Plan

/-- The inner statement, without the bounds on the number of rows. -/
def innerFragment (plan : Plan) : Except Failure Statement := do
  let columns ← projectionFragment plan.label plan.columns
  let eager ← plan.eager.mapM fun load => return raw ", " ++ (← load.fragment plan.label)
  let table ← tableFragment plan.table plan.label
  let lookup ← plan.lookup.toList.mapM (·.fragment plan.label)
  let predicates ← plan.predicates.mapM (·.fragment plan.label)
  let sort ← plan.sort.mapM (·.fragment plan.label)
  return raw "SELECT " ++ columns ++ eager.foldr (· ++ ·) .empty ++ raw " FROM " ++ table
    ++ clauseFragment " WHERE " " AND " (lookup ++ predicates)
    ++ clauseFragment " ORDER BY " ", " sort

/-- The bounds on the number of rows: one row for a lookup, else the page and one row more. -/
def boundsFragment (plan : Plan) : Statement :=
  if plan.isSingle then raw " LIMIT 1"
  else match plan.window with
    | none => .empty
    | some window => raw " LIMIT " ++ bound (boundCount window.lookahead) ++ raw " OFFSET "
        ++ bound (boundCount window.offset)

/-- The inner statement with its bounds, between the outermost opening and closing. -/
def fragment (plan : Plan) : Except Failure Statement :=
  return raw "SELECT row_to_json(t) FROM (" ++ (← plan.innerFragment) ++ plan.boundsFragment
    ++ raw ") AS t"

end Plan

/-! ## What renderers add -/

/-- Whether writing puts a fragment behind whatever is there, and fails as the fragment does. -/
def Adds (write : Statement → Except Failure Statement) (fragment : Except Failure Statement) :
    Prop :=
  ∀ ⦃sql shown : Statement⦄, Alike sql shown → Agree Alike (write sql) (do
    return shown ++ (← fragment))

/-- What is written is the fragment, behind what was there. -/
theorem Adds.exists_fragment {write : Statement → Except Failure Statement}
    {fragment : Except Failure Statement} (h : Adds write fragment) {sql statement : Statement}
    (written : write sql = .ok statement) :
    ∃ added, fragment = .ok added ∧ statement.Alike (sql ++ added) := by
  obtain ⟨_, shown, same⟩ := (h (.refl sql)).exists_ok written
  simp only [Except.bind_eq_ok_iff, Except.pure_eq_ok_iff] at shown
  obtain ⟨added, rendered, rfl⟩ := shown
  exact ⟨added, rendered, same⟩

/-- What follows a fragment that was added follows what the fragment is made of. -/
theorem Agree.added {α : Type} {shown : Statement} {x : Except Failure Statement}
    {y : Except Failure α} {make : α → Statement} (h : Agree Alike x (do return shown ++ make (← y)))
    {write : Statement → Except Failure Statement} {next : α → Except Failure Statement}
    (h' : ∀ a sql, Alike sql (shown ++ make a) → Agree Alike (write sql) (next a)) :
    Agree Alike (x >>= write) (y >>= next) := by
  cases y with
  | error failure =>
    cases h
    exact .error failure
  | ok a =>
    cases h with
    | ok same => exact h' a _ same

/-- What is written for the members of a list, one behind the other. -/
theorem adds_foldlM {α : Type} {write : Statement → α → Except Failure Statement}
    {fragment : α → Except Failure Statement} (each : ∀ a, Adds (write · a) (fragment a))
    (members : List α) :
    Adds (fun sql => members.foldlM write sql)
      (do return (← members.mapM fragment).foldr (· ++ ·) .empty) := by
  induction members with
  | nil =>
    intro sql shown same
    simp only [List.foldlM_nil, List.mapM_nil, pure_bind, List.foldr_nil]
    exact .pure same.before_empty
  | cons a rest ih =>
    intro sql shown same
    simp only [List.foldlM_cons, List.mapM_cons, bind_assoc, pure_bind, List.foldr_cons]
    refine Agree.added (each a same) fun first sql same => ?_
    have later := ih same
    simp only [bind_assoc, pure_bind, Statement.append_assoc] at later
    exact later

/-- A text before each of some fragments is no reason to fail. -/
theorem mapM_preceded {α : Type} (separator : String) (fragment : α → Except Failure Statement)
    (members : List α) :
    (members.mapM fun a => do return raw separator ++ (← fragment a)) =
      (do return (← members.mapM fragment).map (raw separator ++ ·)) := by
  induction members with
  | nil => rfl
  | cons a rest ih => simp only [List.mapM_cons, bind_assoc, pure_bind, ih, List.map_cons]

/-- What is written for the members of a list, with a text between any two. -/
theorem adds_pushEach {α : Type} {write : Statement → α → Except Failure Statement}
    {fragment : α → Except Failure Statement} (each : ∀ a, Adds (write · a) (fragment a))
    (separator : String) (members : List α) :
    Adds (fun sql => pushEach separator write sql members)
      (do return joined separator (← members.mapM fragment)) := by
  intro sql shown same
  cases members with
  | nil =>
    simp only [pushEach, List.mapM_nil, pure_bind]
    exact .pure same.before_empty
  | cons first rest =>
    have preceded (a : α) : Adds (fun sql => write (sql.push separator) a)
        (do return raw separator ++ (← fragment a)) := by
      intro sql shown same
      have behind := each a (same.push separator)
      simp only [Statement.append_assoc] at behind
      simpa only [bind_assoc, pure_bind] using behind
    simp only [pushEach, List.mapM_cons, bind_assoc, pure_bind, Statement.joined_cons]
    refine Agree.added (each first same) fun begun sql same => ?_
    have later := adds_foldlM preceded rest same
    simp only [mapM_preceded, bind_assoc, pure_bind, Statement.append_assoc] at later
    exact later

theorem adds_pushProjected (label column : String) :
    Adds (pushProjected label · column) (projectedFragment label column) := by
  intro sql shown same
  unfold pushProjected projectedFragment columnFragment
  split
  · simp only [bind_assoc, pure_bind, ← Statement.append_assoc]
    exact .step fun i => .pure ((same.pushIdent i).push ".*")
  · simp only [bind_assoc, pure_bind]
    exact .step fun i => .pure (same.pushIdent i)

theorem adds_pushProjection (label : String) (columns : FieldSet) :
    Adds (pushProjection · label columns) (projectionFragment label columns) :=
  adds_pushEach (adds_pushProjected label) ", " _

theorem adds_pushTable (table label : String) :
    Adds (pushTable · table label) (tableFragment table label) := by
  intro sql shown same
  simp only [tableFragment, bind_assoc, pure_bind, ← Statement.append_assoc]
  refine .step fun t => .step fun i => .pure ?_
  exact ((same.pushIdent t).push " AS ").pushIdent i

theorem adds_pushSource (correlation : Correlation) (table relation : String) :
    Adds (correlation.pushSource · table relation) (correlation.sourceFragment table relation) := by
  intro sql shown same
  simp only [Correlation.sourceFragment, bind_assoc]
  refine Agree.added (adds_pushTable table relation same) fun related sql same => ?_
  cases correlation with
  | toOne | toMany => exact .pure same
  | manyToMany pivot foreign relatedKey localKey key =>
    simp only [columnFragment, bind_assoc, pure_bind, ← Statement.append_assoc]
    refine .step fun p => .step fun left => .step fun right => .pure ?_
    have joined := (same.push " INNER JOIN ").pushIdent p
    exact (((joined.push " ON ").pushIdent left).push " = ").pushIdent right

theorem adds_pushCondition (correlation : Correlation) (main relation : String) :
    Adds (correlation.pushCondition · main relation)
      (correlation.conditionFragment main relation) := by
  intro sql shown same
  cases correlation with
  | toOne | toMany | manyToMany =>
    simp only [Correlation.pushCondition, Correlation.conditionFragment, columnFragment, bind_assoc,
      pure_bind, ← Statement.append_assoc]
    refine .step fun left => .step fun right => .pure ?_
    exact ((same.pushIdent left).push " = ").pushIdent right

theorem adds_pushOrder (load : EagerLoad) : Adds load.pushOrder load.orderFragment := by
  intro sql shown same
  unfold EagerLoad.pushOrder EagerLoad.orderFragment
  split
  · exact .pure (same.push " LIMIT 1")
  · simp only [columnFragment, bind_assoc, pure_bind, ← Statement.append_assoc]
    refine .step fun key => ?_
    have ordered := (same.push " ORDER BY ").pushIdent key
    cases load.limit with
    | none => exact .pure ordered.before_empty
    | some limit =>
      rw [limitFragment, ← Statement.append_assoc]
      exact .pure ((ordered.push " LIMIT ").pushValue _)

/-- The subquery of a relation is written as one fragment. -/
theorem adds_eagerLoad (load : EagerLoad) (main : String) :
    Adds (load.push · main) (load.fragment main) := by
  intro sql shown same
  simp only [EagerLoad.fragment, bind_assoc, pure_bind]
  have opened := same.push load.opening
  refine Agree.added (adds_pushProjection load.relation load.columns opened) fun _ sql same => ?_
  refine Agree.added (adds_pushSource load.correlation load.table load.relation
    (same.push " FROM ")) fun _ sql same => ?_
  refine Agree.added (adds_pushCondition load.correlation main load.relation
    (same.push " WHERE ")) fun _ sql same => ?_
  refine Agree.added (adds_pushOrder load same) fun _ sql same => .step fun i => .pure ?_
  simp only [← Statement.append_assoc]
  exact (same.push ") AS r) AS ").pushIdent i

/-- A fragment that is spliced in. -/
theorem Adds.splice {x fragment : Except Failure Statement} (h : Agree Alike x fragment) :
    Adds (fun sql => do return sql ++ (← x)) fragment := by
  intro sql shown same
  exact h.bind fun _ _ spliced => .pure (same.append spliced)

/-- A filter is written as its fragment. -/
theorem agree_filter (filter : Filter) (label : String) :
    Agree Alike (filter.sql label) (filter.fragment label) := by
  unfold Filter.sql Filter.fragment
  simp only [columnFragment, bind_assoc, pure_bind]
  refine .step fun i => ?_
  have compared := (((Alike.refl .empty).pushIdent i).push " ").push filter.op.sql
  cases filter.value with
  | none => exact .pure compared.before_empty
  | some value =>
    rw [← Statement.append_assoc]
    exact .pure ((compared.push " ").pushValue _)

/-- A condition is written as its fragment. -/
theorem agree_predicate (predicate : Predicate) (main : String) :
    Agree Alike (predicate.sql main) (predicate.fragment main) := by
  cases predicate with
  | filter f => exact agree_filter f main
  | related relation table correlation filters =>
    have each (f : Filter) : Adds (fun sql => do return sql.push " AND " ++ (← f.sql relation))
        (do return raw " AND " ++ (← f.fragment relation)) := by
      intro sql shown same
      simp only [bind_assoc, pure_bind, ← Statement.append_assoc]
      exact Adds.splice (agree_filter f relation) (same.push " AND ")
    refine Agree.added (adds_pushSource correlation table relation (.refl _)) fun _ sql same => ?_
    refine Agree.added (adds_pushCondition correlation main relation (same.push " WHERE "))
      fun _ sql same => ?_
    have rest := adds_foldlM each filters same
    simp only [bind_assoc, pure_bind] at rest
    refine Agree.added rest fun _ sql same => .pure ?_
    simp only [Statement.append_assoc] at same ⊢
    simpa only [Statement.append_assoc] using same.push ")"

theorem agree_lookup (lookup : Lookup) (main : String) :
    Agree Alike (lookup.sql main) (lookup.fragment main) := by
  cases lookup with
  | primary key value =>
    simp only [Lookup.sql, Lookup.fragment, columnFragment, bind_assoc, pure_bind]
    refine .step fun i => .pure ?_
    exact (((Alike.refl .empty).pushIdent i).push " = ").pushValue _
  | primaryOrAlternate key alternate value =>
    simp only [Lookup.sql, Lookup.fragment, columnFragment, bind_assoc, pure_bind]
    refine .step fun i => .step fun j => .pure ?_
    have opened := (((Alike.refl .empty).push "(").pushIdent i).push "::text = "
    have again := (((opened.pushValue (.text value)).push " OR ").pushIdent j).push " = "
    exact (again.pushValue (.text value)).push ")"

theorem adds_sortKey (key : SortKey) (main : String) :
    Adds (SortKey.push main · key) (key.fragment main) := by
  intro sql shown same
  simp only [SortKey.fragment, columnFragment, bind_assoc, pure_bind, ← Statement.append_assoc]
  exact .step fun i => .pure (((same.pushIdent i).push " ").push key.direction.sql)

/-- A clause of fragments is written if there are any. -/
theorem alike_clause {sql shown : Statement} (same : Alike sql shown) (opening separator : String)
    {members fragments : List Statement} (each : List.Forall₂ Alike members fragments) :
    Alike (if members.isEmpty then sql else (sql.push opening).pushJoined members separator)
      (shown ++ clauseFragment opening separator fragments) := by
  cases each with
  | nil => exact same.before_empty
  | cons first later =>
    show Alike _ (shown ++ (raw opening ++ joined separator _))
    rw [← Statement.append_assoc]
    exact (same.push opening).pushJoined (.cons first later) separator

/-- The members of a clause may as well be written one by one. -/
theorem adds_clause {α : Type} {write : Statement → α → Except Failure Statement}
    {fragment : α → Except Failure Statement} (each : ∀ a, Adds (write · a) (fragment a))
    (opening separator : String) (members : List α) :
    Adds (fun sql => if members.isEmpty then pure sql
        else pushEach separator write (sql.push opening) members)
      (do return clauseFragment opening separator (← members.mapM fragment)) := by
  intro sql shown same
  cases members with
  | nil =>
    simp only [List.mapM_nil, pure_bind]
    exact .pure same.before_empty
  | cons first rest =>
    have written := adds_pushEach each separator (first :: rest) (same.push opening)
    simp only [List.mapM_cons, bind_assoc, pure_bind, Statement.append_assoc] at written ⊢
    exact written

namespace Plan

variable (plan : Plan)

/-- The inner statement says what its fragments say. -/
theorem agree_selectSql : Agree Alike plan.selectSql plan.innerFragment := by
  have loads (load : EagerLoad) : Adds (fun sql => load.push (sql.push ", ") plan.label)
      (do return raw ", " ++ (← load.fragment plan.label)) := by
    intro sql shown same
    have behind := adds_eagerLoad load plan.label (same.push ", ")
    simp only [Statement.append_assoc] at behind
    simpa only [bind_assoc, pure_bind] using behind
  refine Agree.added (adds_pushProjection plan.label plan.columns (.refl _)) fun _ sql same => ?_
  have eager := adds_foldlM loads plan.eager same
  simp only [bind_assoc, pure_bind] at eager
  refine Agree.added eager fun _ sql same => ?_
  refine Agree.added (adds_pushTable plan.table plan.label (same.push " FROM ")) fun _ sql same => ?_
  have lookups := Agree.each (fun lookup => agree_lookup lookup plan.label) plan.lookup.toList
  have predicates := Agree.each (fun each => agree_predicate each plan.label) plan.predicates
  refine lookups.bind fun _ _ found => predicates.bind fun _ _ conditioned => ?_
  have clause := alike_clause same " WHERE " " AND " (List.rel_append found conditioned)
  have sorted := adds_clause (fun key => adds_sortKey key plan.label) " ORDER BY " ", " plan.sort clause
  simp only [bind_assoc, pure_bind] at sorted
  simp only [Statement.append_assoc] at sorted ⊢
  exact sorted

/-- So do the bounds, behind whatever they are written. -/
theorem alike_pushBounds {sql shown : Statement} (same : Alike sql shown) :
    Alike (plan.pushBounds sql) (shown ++ plan.boundsFragment) := by
  unfold pushBounds boundsFragment
  split
  · exact same.push " LIMIT 1"
  · cases plan.window with
    | none => exact same.before_empty
    | some window =>
      simp only [← Statement.append_assoc]
      exact (((same.push " LIMIT ").pushValue _).push " OFFSET ").pushValue _

variable {plan} {statement : Statement}

/-- The inner statement says the same as its fragment. -/
theorem exists_innerFragment (h : plan.selectSql = .ok statement) :
    ∃ inner, plan.innerFragment = .ok inner ∧ statement.Alike inner :=
  (agree_selectSql plan).exists_ok h

/-- The whole fragment is the inner one, wrapped and bounded. -/
theorem fragment_eq_ok_iff {whole : Statement} : plan.fragment = .ok whole ↔
    ∃ inner, plan.innerFragment = .ok inner ∧
      raw "SELECT row_to_json(t) FROM (" ++ inner ++ plan.boundsFragment ++ raw ") AS t" =
        whole := by
  simp only [fragment, Except.bind_eq_ok_iff, Except.pure_eq_ok_iff]

/-- What is written around the inner statement is written around its fragment. -/
theorem alike_enclosed (plan : Plan) {inner : Statement} (same : statement.Alike inner) :
    ((plan.pushBounds (raw "SELECT row_to_json(t) FROM (" ++ statement)).push ") AS t").Alike
      (raw "SELECT row_to_json(t) FROM (" ++ inner ++ plan.boundsFragment ++ raw ") AS t") :=
  (alike_pushBounds plan ((Alike.refl _).append same)).push ") AS t"

/-- The whole statement is the inner one, wrapped and bounded. -/
theorem exists_of_sql (h : plan.sql = .ok statement) : ∃ inner, plan.selectSql = .ok inner ∧
    (plan.pushBounds (raw "SELECT row_to_json(t) FROM (" ++ inner)).push ") AS t" = statement := by
  simp only [sql, Except.bind_eq_ok_iff, Except.pure_eq_ok_iff] at h
  obtain ⟨inner, selected, -, -, rfl⟩ := h
  exact ⟨inner, selected, rfl⟩

/-- The whole statement says the same as its fragment. -/
theorem exists_fragment (h : plan.sql = .ok statement) :
    ∃ whole, plan.fragment = .ok whole ∧ statement.Alike whole := by
  obtain ⟨written, selected, rfl⟩ := exists_of_sql h
  obtain ⟨inner, rendered, same⟩ := exists_innerFragment selected
  exact ⟨_, fragment_eq_ok_iff.2 ⟨inner, rendered, rfl⟩, alike_enclosed plan same⟩

end Plan

end Retrieval
