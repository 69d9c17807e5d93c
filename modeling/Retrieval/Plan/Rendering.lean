import Retrieval.Plan.Basic
import Retrieval.Request.Selection
import Retrieval.Statement

/-!
# Statements of plans

A plan is written as one statement that yields every main row as a JSON object, with the rows of
each relation nested under the name of the relation:

    SELECT row_to_json(t) FROM (
      SELECT "post"."title", "post"."author_id",
        (SELECT row_to_json(r) FROM (SELECT "author"."name", "author"."id"
          FROM "users" AS "author" WHERE "author"."id" = "post"."author_id" LIMIT 1) AS r)
          AS "author"
      FROM "posts" AS "post"
      WHERE "post"."price" >= $1 ORDER BY "post"."title" ASC LIMIT $2 OFFSET $3
    ) AS t

The inner statement, its projections and its joins are written from left to right into one
statement; every condition is a fragment of its own. Names enter as identifiers and values are
bound; all other text is fixed here. A name that is no identifier where it stands makes the
rendering fail, and the first such name from left to right is reported.
-/

namespace Retrieval

open Statement (raw)

/-- A count as a bound integer; counts above the largest integer are cut down to it. -/
def boundCount (n : UInt64) : Param := .int8 (Int64.ofNat (min n.toNat 0x7fffffffffffffff))

/-- Writes every member of a list, with a text between any two. -/
def pushEach {α : Type} (separator : String) (write : Statement → α → Except Failure Statement)
    (sql : Statement) : List α → Except Failure Statement
  | [] => return sql
  | first :: rest => do rest.foldlM (fun sql a => write (sql.push separator) a) (← write sql first)

/-- Writes one column of a projection; the star stands for every column of the table. -/
def pushProjected (label : String) (sql : Statement) (column : String) :
    Except Failure Statement := do
  if column = wildcard then return sql.pushIdent (← Ident.get label) |>.push ".*"
  else return sql.pushIdent (← Ident.column label column)

/-- Writes the columns of a projection; without columns, every column of the table. -/
def pushProjection (sql : Statement) (label : String) (columns : FieldSet) :
    Except Failure Statement :=
  pushEach ", " (pushProjected label) sql
    (if columns.isEmpty then [wildcard] else columns.toList)

/-- Writes a table under an alias. -/
def pushTable (sql : Statement) (table label : String) : Except Failure Statement := do
  return sql.pushIdent (← Ident.get table) |>.push " AS " |>.pushIdent (← Ident.get label)

namespace Correlation

/-- Writes the related table under the name of the relation, joined to the pivot table if there is
one. -/
def pushSource (correlation : Correlation) (sql : Statement) (table relation : String) :
    Except Failure Statement := do
  let sql ← pushTable sql table relation
  match correlation with
  | manyToMany pivot _ relatedPivotKey _ relatedKey =>
    return sql.push " INNER JOIN " |>.pushIdent (← Ident.get pivot)
      |>.push " ON " |>.pushIdent (← Ident.column pivot relatedPivotKey)
      |>.push " = " |>.pushIdent (← Ident.column relation relatedKey)
  | _ => return sql

/-- Writes the condition that ties a related row to the main row. -/
def pushCondition (correlation : Correlation) (sql : Statement) (main relation : String) :
    Except Failure Statement := do
  let (left, right) ← match correlation with
    | toOne foreignKey ownerKey =>
      pure (← Ident.column relation ownerKey, ← Ident.column main foreignKey)
    | toMany foreignKey localKey =>
      pure (← Ident.column relation foreignKey, ← Ident.column main localKey)
    | manyToMany pivot foreignPivotKey _ localKey _ =>
      pure (← Ident.column pivot foreignPivotKey, ← Ident.column main localKey)
  return sql.pushIdent left |>.push " = " |>.pushIdent right

end Correlation

namespace EagerLoad

/-- Writes what stands behind the condition of related rows: one row for a to-one relation, an order
and perhaps a bound for the others. -/
def pushOrder (load : EagerLoad) (sql : Statement) : Except Failure Statement := do
  if load.correlation.isToOne then return sql.push " LIMIT 1"
  else
    let sql := sql.push " ORDER BY " |>.pushIdent (← Ident.column load.relation load.primaryKey)
    match load.limit with
    | none => return sql
    | some limit => return sql.push " LIMIT " |>.pushValue (boundCount limit)

/-- Writes the related rows of a main row as one JSON value: an object or null for a to-one
relation, an array for the others. -/
def push (load : EagerLoad) (sql : Statement) (main : String) : Except Failure Statement := do
  let sql := sql.push (if load.correlation.isToOne then "(SELECT row_to_json(r) FROM (SELECT "
    else "(SELECT COALESCE(json_agg(r), '[]'::json) FROM (SELECT ")
  let sql ← pushProjection sql load.relation load.columns
  let sql ← load.correlation.pushSource (sql.push " FROM ") load.table load.relation
  let sql ← load.correlation.pushCondition (sql.push " WHERE ") main load.relation
  let sql ← load.pushOrder sql
  return sql.push ") AS r) AS " |>.pushIdent (← Ident.get load.relation)

end EagerLoad

/-- A filter on a column behind an alias. -/
def Filter.sql (filter : Filter) (label : String) : Except Failure Statement := do
  let sql := Statement.empty.pushIdent (← Ident.column label filter.field)
    |>.push " " |>.push filter.op.sql
  match filter.value with
  | none => return sql
  | some value => return sql.push " " |>.pushValue (.text value)

/-- A condition on main rows. -/
def Predicate.sql (predicate : Predicate) (main : String) : Except Failure Statement := do
  match predicate with
  | filter f => f.sql main
  | related relation table correlation filters =>
    let sql ← correlation.pushSource (raw "EXISTS (SELECT 1 FROM ") table relation
    let sql ← correlation.pushCondition (sql.push " WHERE ") main relation
    let sql ← filters.foldlM (fun sql f => return sql.push " AND " ++ (← f.sql relation)) sql
    return sql.push ")"

/-- The condition that finds a single row. -/
def Lookup.sql (lookup : Lookup) (main : String) : Except Failure Statement := do
  match lookup with
  | primary key value =>
    return Statement.empty.pushIdent (← Ident.column main key)
      |>.push " = " |>.pushValue (.text value)
  | primaryOrAlternate key alternate value =>
    return Statement.empty.push "(" |>.pushIdent (← Ident.column main key)
      |>.push "::text = " |>.pushValue (.text value)
      |>.push " OR " |>.pushIdent (← Ident.column main alternate)
      |>.push " = " |>.pushValue (.text value) |>.push ")"

/-- Writes a sort key on a column behind an alias. -/
def SortKey.push (main : String) (sql : Statement) (key : SortKey) : Except Failure Statement := do
  return sql.pushIdent (← Ident.column main key.field) |>.push " " |>.push key.direction.sql

namespace Plan

/-- The inner statement, without the bounds on the number of rows. -/
def selectSql (plan : Plan) : Except Failure Statement := do
  let sql ← pushProjection (raw "SELECT ") plan.label plan.columns
  let sql ← plan.eager.foldlM (fun sql load => load.push (sql.push ", ") plan.label) sql
  let sql ← pushTable (sql.push " FROM ") plan.table plan.label
  let lookup ← plan.lookup.toList.mapM (·.sql plan.label)
  let predicates ← plan.predicates.mapM (·.sql plan.label)
  let conditions := lookup ++ predicates
  let sql := if conditions.isEmpty then sql
    else sql.push " WHERE " |>.pushJoined conditions " AND "
  if plan.sort.isEmpty then return sql
  else pushEach ", " (SortKey.push plan.label) (sql.push " ORDER BY ") plan.sort

/-- Writes the bounds on the number of rows: one row for a lookup, else the page and one row more.
-/
def pushBounds (plan : Plan) (sql : Statement) : Statement :=
  if plan.isSingle then sql.push " LIMIT 1"
  else match plan.window with
    | none => sql
    | some window => sql.push " LIMIT " |>.pushValue (boundCount window.lookahead)
        |>.push " OFFSET " |>.pushValue (boundCount window.offset)

/-- The statement of a plan; it is checked before it is given away. -/
def sql (plan : Plan) : Except Failure Statement := do
  let sql := raw "SELECT row_to_json(t) FROM (" ++ (← plan.selectSql)
  let sql := (plan.pushBounds sql).push ") AS t"
  sql.validate
  return sql

end Plan

end Retrieval
