import SqlCompose.Row
import SqlCompose.Select

/-!
# Statements that change rows

Inserts, updates, deletes and truncations. Each needs a table. Where a dialect lays a statement
out in its own way, the layout is one of the fields of the dialect.
-/
namespace SqlCompose.QueryDialect

variable (d : QueryDialect)

/-- The table that a statement changes. -/
def target (statement : Statement) (q : Query) : Except CompileError String :=
  match q.table with
  | some table => .ok (d.quoter.table table)
  | none => .error (.missingTable statement)

/-- The values of a row in parentheses. -/
def tuple (row : Row) : Fragment := "(" ++ d.operands row.operands ++ ")"

/-- An insert of rows, whose first names the columns. Without columns the defaults are inserted. -/
def insert (q : Query) (rows : List Row) : Except CompileError Fragment := do
  let table ← d.target .insert q
  match rows with
  | [] => return .ofText ("insert into " ++ table ++ " default values")
  | first :: _ =>
    if first.isEmpty then return .ofText ("insert into " ++ table ++ " default values")
    else
      return "insert into " ++ table ++ " (" ++ d.quoter.columnNames first.columns ++ ") values "
        ++ Fragment.joinWith ", " (rows.map d.tuple)

/-- An insert of the rows of another query. -/
def insertUsing (q : Query) (columns : List Ident) (source : Query) :
    Except CompileError Fragment := do
  let table ← d.target .insert q
  let select ← d.select source
  return "insert into " ++ table ++ " (" ++ d.quoter.columns columns ++ ") " ++ select

/-- An insert that passes over rows that are there already. -/
def insertOrIgnore (q : Query) (rows : List Row) : Except CompileError Fragment :=
  match d.insertIgnore with
  | none => .error (.unsupported d.name .insertOrIgnore)
  | some .keyword => do
    let inserted ← d.insert q rows
    let sql := Text.replaceFirst "insert".toList "insert ignore".toList inserted.sql.toList
    return ⟨String.ofList sql, inserted.bindings⟩
  | some .conflictClause => do return (← d.insert q rows) ++ " on conflict do nothing"

/-- An insert of one row that asks for the key it makes, in the given column or in `id`. -/
def insertGetId (q : Query) (row : Row) (key : Option String) : Except CompileError Fragment := do
  let inserted ← d.insert q [row]
  if d.returnsKey then return inserted ++ (" returning " ++ d.quoter.columnName (key.getD "id"))
  else return inserted

def assignment : Assignment → Fragment
  | .inserted column =>
    let column := d.quoter.columnName column
    .ofText (column ++ " = values(" ++ column ++ ")")
  | .set column operand => d.quoter.columnName column ++ " = " ++ d.operand operand

/-- An insert that updates the rows that are there already. -/
def upsert (q : Query) (rows : List Row) (update : List Assignment) :
    Except CompileError Fragment :=
  if d.upserts then
    match rows with
    | [] => .error (.missingRows .upsert)
    | first :: _ => do
      if first.isEmpty then throw (.missingRows .upsert)
      let inserted ← d.insert q rows
      if update.isEmpty then return inserted
      else
        return inserted ++ " on duplicate key update "
          ++ Fragment.joinWith ", " (update.map d.assignment)
  else .error (.unsupported d.name .upsert)

/-- The assignments of an update. -/
def assignments (values : Row) : Fragment :=
  Fragment.joinWith ", " (values.entries.map fun (column, operand) =>
    d.quoter.columnName column ++ " = " ++ d.operand operand)

/-- The conditions of all joins, in one list. -/
def allJoinConditions : List Join → Except CompileError (List Condition)
  | [] => return []
  | join :: joins => do
    return (← d.conditionList join.conditions) ++ (← allJoinConditions joins)

/-- The joined tables. -/
def joinedTables (q : Query) : String :=
  Text.joinWith ", " (q.joins.map fun join => d.quoter.table join.table)

/-- The conditions of a query and then those of its joins, as one list. The values of the two are
kept apart. -/
structure FoldedConditions where
  sql : String
  own : List Value
  joined : List Value

def foldedConditions (q : Query) : Except CompileError FoldedConditions := do
  let own ← d.conditionList q.conditions
  let joined ← d.allJoinConditions q.joins
  return ⟨(Condition.under "where" (own ++ joined)).sql, Condition.allBindings own,
    Condition.allBindings joined⟩

/-- The order and limit of a statement without joins. -/
def tail (q : Query) : List String := [d.ordersText q.orders, d.limit (bounds q)]

/-- An update: its clauses, and the values of its joins, conditions and assignments, which come in
the order of the dialect. -/
def update (q : Query) (values : Row) : Except CompileError Fragment := do
  let table ← d.target .update q
  let head := "update " ++ table
  let set := "set " ++ d.assignments values
  match d.joinedWrites with
  | .plain => do
    let joins ← d.joinList q.joins
    let conditions ← d.conditions q.conditions
    return ⟨concatenate [head, joins.sql, set.sql, conditions.sql],
      d.orderUpdateBindings joins.bindings conditions.bindings set.bindings⟩
  | .multiTable => do
    let joins ← d.joinList q.joins
    let conditions ← d.conditions q.conditions
    return ⟨concatenate ([head, joins.sql, set.sql, conditions.sql]
        ++ if q.joins.isEmpty then d.tail q else []),
      d.orderUpdateBindings joins.bindings conditions.bindings set.bindings⟩
  | .listed =>
    if q.joins.isEmpty then do
      let conditions ← d.conditions q.conditions
      return ⟨concatenate [head, set.sql, conditions.sql],
        d.orderUpdateBindings [] conditions.bindings set.bindings⟩
    else do
      let conditions ← d.foldedConditions q
      return ⟨concatenate [head, set.sql, "from " ++ d.joinedTables q, conditions.sql],
        d.orderUpdateBindings conditions.joined conditions.own set.bindings⟩

def delete (q : Query) : Except CompileError Fragment := do
  let table ← d.target .delete q
  let head := "delete from " ++ table
  match d.joinedWrites with
  | .plain => do
    let conditions ← d.conditions q.conditions
    return ⟨concatenate [head, conditions.sql], conditions.bindings⟩
  | .multiTable =>
    if q.joins.isEmpty then do
      let conditions ← d.conditions q.conditions
      return ⟨concatenate ([head, conditions.sql] ++ d.tail q), conditions.bindings⟩
    else do
      let name := (q.table.map d.quoter.tableAlias).getD ""
      let joins ← d.joinList q.joins
      let conditions ← d.conditions q.conditions
      return ⟨concatenate ["delete " ++ name ++ " from " ++ table, joins.sql, conditions.sql],
        joins.bindings ++ conditions.bindings⟩
  | .listed =>
    if q.joins.isEmpty then do
      let conditions ← d.conditions q.conditions
      return ⟨concatenate [head, conditions.sql], conditions.bindings⟩
    else do
      let conditions ← d.foldedConditions q
      return ⟨concatenate [head, "using " ++ d.joinedTables q, conditions.sql],
        conditions.own ++ conditions.joined⟩

/-- The statements that empty a table. -/
def truncateTable (q : Query) : Except CompileError (List Fragment) := do
  let table ← d.target .truncate q
  return [.ofText (d.truncate table)]

end SqlCompose.QueryDialect
