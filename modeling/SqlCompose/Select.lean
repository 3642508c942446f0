import SqlCompose.Condition
import SqlCompose.Dialect.Basic

/-!
# Selects

A select is its clauses in a fixed order, those without text left out. The values follow the text:
of the joins, the conditions, the groups' conditions and then the united queries. An aggregate of
a union selects from the union as a whole.
-/
namespace SqlCompose.QueryDialect

variable (d : QueryDialect)

def aggregateText (distinct : Bool) : Option Aggregate → String
  | none => ""
  | some a =>
    let columns := d.quoter.columns a.columns
    let columns := if columns = "" then "*" else columns
    let columns := if distinct ∧ columns ≠ "*" then "distinct " ++ columns else columns
    "select " ++ a.function.keyword ++ "(" ++ columns ++ ") as aggregate"

/-- The select list; an aggregate stands for it. -/
def columnsText (distinct : Bool) (aggregate : Option Aggregate) (columns : Option (List Ident)) :
    String :=
  match aggregate with
  | some _ => ""
  | none =>
    let select := if distinct then "select distinct" else "select"
    match columns with
    | none | some [] => select ++ " *"
    | some columns => select ++ " " ++ d.quoter.columns columns

def fromText : Option Ident → String
  | none => ""
  | some table => "from " ++ d.quoter.table table

def groupsText : List Ident → String
  | [] => ""
  | groups => "group by " ++ d.quoter.columns groups

def orderText (key : SortKey) : String :=
  d.quoter.column key.column ++ " " ++ key.direction.keyword

def ordersText : List SortKey → String
  | [] => ""
  | keys => "order by " ++ Text.joinWith ", " (keys.map d.orderText)

def lockText : Option Lock → String
  | none => ""
  | some .exclusive => "for update"
  | some .shared => d.sharedLock
  | some (.raw sql) => sql.text

/-- A comparison of a text with an operand. -/
def comparison (left given : String) (operand : Operand) : Except CompileError Fragment := do
  let operator ← d.operator given
  return left ++ " " ++ operator ++ " " ++ d.operand operand

def havingTest : HavingTest → Except CompileError Fragment
  | .compare column operator operand => d.comparison (d.quoter.column column) operator operand
  | .raw sql bindings => return d.raw sql bindings

def havingConditions : List HavingClause → Except CompileError (List Condition)
  | [] => return []
  | clause :: clauses => do
    let condition ← d.havingTest clause.test
    return ⟨clause.connective, condition⟩ :: (← havingConditions clauses)

/-- The clauses after `having`, also those without text. -/
def havings : List HavingClause → Except CompileError Fragment
  | [] => return .empty
  | clauses => do return "having " ++ Condition.joinAll (← d.havingConditions clauses)

def bounds (q : Query) : Bounds := ⟨q.limit, q.offset⟩

/-- A bound is written only if the query has it. -/
def boundTexts (q : Query) : List String :=
  [if q.limit.isSome then d.limit (bounds q) else "",
    if q.offset.isSome then d.offset (bounds q) else ""]

/-- The clauses of a query around its written joins and conditions. -/
def assemble (q : Query) (aggregate : Option Aggregate) (joins conditions havings : Fragment) :
    Fragment :=
  .concat <|
    [.ofText (d.aggregateText q.distinct aggregate),
      .ofText (d.columnsText q.distinct aggregate q.columns),
      .ofText (d.fromText q.table),
      joins,
      conditions,
      .ofText (d.groupsText q.groups),
      havings,
      .ofText (d.ordersText q.orders)]
    ++ (d.boundTexts q).map .ofText
    ++ [.ofText (d.lockText q.lock)]

/-- A query of a union. -/
def bracket (f : Fragment) : Fragment := if d.bracketsUnions then "(" ++ f ++ ")" else f

/-- What follows the first query of a union. -/
def assembleUnion (q : Query) (members : List Fragment) : Fragment :=
  let bounds : Bounds := ⟨q.unionLimit, q.unionOffset⟩
  .concat (members ++
    [.ofText (d.ordersText q.unionOrders), .ofText (d.limit bounds), .ofText (d.offset bounds)])

/-- An aggregate over a written query. -/
def aggregateOver (q : Query) (inner : Fragment) : Fragment :=
  d.aggregateText q.distinct q.aggregate ++ " from (" ++ inner ++ ") as "
    ++ d.quoter.tableName "temp_table"

/-- A query with its written parts; without united queries it stands alone. -/
def assembleSelect (q : Query) (joins conditions havings : Fragment) (united : List Fragment) :
    Fragment :=
  match united with
  | [] => d.assemble q q.aggregate joins conditions havings
  | _ :: _ =>
    let first := d.assemble q none joins conditions havings
    let whole := d.bracket first ++ " " ++ d.assembleUnion q united
    match q.aggregate with
    | none => whole
    | some _ => d.aggregateOver q whole

/-- A joined table; without conditions nothing follows the table. -/
def assembleJoin (kind : JoinKind) (table : Ident) (conditions : List Condition) : Fragment :=
  let joined := kind.keyword ++ " join " ++ d.quoter.table table ++ " "
    ++ Condition.under "on" conditions
  { joined with sql := Text.trimEnd joined.sql }

def notText (negated : Bool) : String := if negated then "not " else ""

mutual
def select : Query → Except CompileError Fragment
  | q@{ joins, conditions, havings, members, .. } => do
    let joins ← joinFragments joins
    let conditions ← conditionList conditions
    let havings ← d.havings havings
    let united ← memberList members
    return d.assembleSelect q (Fragment.joinWith " " joins) (Condition.under "where" conditions)
      havings united

def joinFragments : List Join → Except CompileError (List Fragment)
  | [] => return []
  | { kind, table, conditions } :: joins => do
    let conditions ← conditionList conditions
    return d.assembleJoin kind table conditions :: (← joinFragments joins)

/-- Every clause with its connective, also one without text. -/
def conditionList : List Clause → Except CompileError (List Condition)
  | [] => return []
  | { connective, predicate } :: clauses => do
    let condition ← predicateText predicate
    return ⟨connective, condition⟩ :: (← conditionList clauses)

def predicateText : Predicate → Except CompileError Fragment
  | .compare column operator operand => d.comparison (d.quoter.column column) operator operand
  | .compareColumns first operator second => do
    let operator ← d.operator operator
    return .ofText (d.quoter.column first ++ " " ++ operator ++ " " ++ d.quoter.column second)
  | .oneOf negated _ [] => return .ofText (if negated then "1 = 1" else "0 = 1")
  | .oneOf negated column operands =>
    return d.quoter.column column ++ " " ++ notText negated ++ "in (" ++ d.operands operands ++ ")"
  | .oneOfQuery negated column query => do
    let inner ← select query
    return d.quoter.column column ++ " " ++ notText negated ++ "in (" ++ inner ++ ")"
  | .null negated column =>
    return .ofText (d.quoter.column column ++ " is " ++ notText negated ++ "null")
  | .between negated column low high =>
    return d.quoter.column column ++ " " ++ notText negated ++ "between " ++ d.operand low
      ++ " and " ++ d.operand high
  | .existsQuery negated query => do
    let inner ← select query
    return notText negated ++ "exists (" ++ inner ++ ")"
  | .nested clauses => do
    let inner := Condition.join (← conditionList clauses)
    return if inner.sql = "" then inner else "(" ++ inner ++ ")"
  | .raw sql bindings => return d.raw sql bindings
  | .datePart part column operator operand =>
    d.comparison (d.datePart part (d.quoter.column column)) operator operand
  | .jsonContains negated column document =>
    let around := d.jsonContains negated (d.quoter.column column)
    return around.1 ++ d.value (.json document) ++ around.2
  | .jsonLength column operator operand =>
    d.comparison (d.jsonLength (d.quoter.column column)) operator operand

def memberList : List Member → Except CompileError (List Fragment)
  | [] => return []
  | { query, all } :: members => do
    let inner ← select query
    return ((if all then "union all " else "union ") ++ d.bracket inner)
      :: (← memberList members)
end

/-- The joins of a query, one after another. -/
def joinList (joins : List Join) : Except CompileError Fragment := do
  return Fragment.joinWith " " (← d.joinFragments joins)

/-- The conditions of a query after `where`. -/
def conditions (clauses : List Clause) : Except CompileError Fragment := do
  return Condition.under "where" (← d.conditionList clauses)

/-- A query without its union. -/
def components (q : Query) : Except CompileError Fragment := do
  let joins ← d.joinList q.joins
  let conditions ← d.conditions q.conditions
  let havings ← d.havings q.havings
  return d.assemble q q.aggregate joins conditions havings

/-- The united queries with the order and bounds of the union. -/
def unionTail (q : Query) : Except CompileError Fragment := do
  return d.assembleUnion q (← d.memberList q.members)

theorem select_eq (q : Query) : d.select q = do
    let joins ← d.joinFragments q.joins
    let conditions ← d.conditionList q.conditions
    let havings ← d.havings q.havings
    let united ← d.memberList q.members
    return d.assembleSelect q (Fragment.joinWith " " joins) (Condition.under "where" conditions)
      havings united := by
  cases q
  rfl

theorem select_of_alone {q : Query} (alone : q.members = []) : d.select q = d.components q := by
  simp only [select_eq, components, joinList, conditions, alone, memberList, assembleSelect,
    bind_assoc, pure_bind]

/-- A union is its first query without the aggregate, then what follows it. The aggregate is over the
whole. -/
theorem select_of_union {q : Query} (united : q.members ≠ []) : d.select q = do
    let first ← d.components { q with aggregate := none }
    let tail ← d.unionTail q
    let whole := d.bracket first ++ " " ++ tail
    return if q.aggregate.isSome then d.aggregateOver q whole else whole := by
  obtain ⟨⟨query, all⟩, members, listed⟩ := List.exists_cons_of_ne_nil united
  simp only [select_eq, components, unionTail, joinList, conditions, listed, memberList,
    assembleSelect, bind_assoc, pure_bind]
  cases q.aggregate <;> rfl

/-- A select that tells whether the query has rows. -/
def selectExists (q : Query) : Except CompileError Fragment := do
  let inner ← d.select q
  return "select exists(" ++ inner ++ ") as " ++ d.quoter.part "exists"

end SqlCompose.QueryDialect
