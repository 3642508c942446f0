import Mathlib.Tactic.MkIffOfInductiveProp
import SqlCompose.Query.Basic
import SqlCompose.Row

/-!
# Which expressions a query may hold

A rule says which trusted SQL may stand in the place of a name, an operand or a lock, and which may
stand as a clause with values of its own. A query obeys a rule when all its expressions do, also
those of its joins, nested conditions, inner queries and united queries. The rule that allows
nothing describes the queries without expressions.
-/
namespace SqlCompose

structure ExpressionRule where
  /-- SQL in the place of a name, an operand or a lock. -/
  text : String → Prop
  /-- SQL that stands as a clause, with its values. -/
  clause : String → List Value → Prop

/-- No expression at all. -/
def ExpressionRule.none : ExpressionRule := ⟨fun _ => False, fun _ _ => False⟩

variable (rule : ExpressionRule)

def Ident.Obeys : Ident → Prop
  | .name _ => True
  | .raw sql => rule.text sql.text

def Operand.Obeys : Operand → Prop
  | .value _ => True
  | .raw sql => rule.text sql.text

def Lock.Obeys : Lock → Prop
  | .exclusive | .shared => True
  | .raw sql => rule.text sql.text

def HavingTest.Obeys : HavingTest → Prop
  | .compare column _ operand => column.Obeys rule ∧ operand.Obeys rule
  | .raw sql bindings => rule.clause sql.text bindings

def Row.Obeys (row : Row) : Prop := ∀ operand ∈ row.operands, operand.Obeys rule

/-- The rule for what a query holds outside its joins, conditions and united queries. -/
@[mk_iff]
structure Query.PartsObey (q : Query) : Prop where
  columns : ∀ column ∈ q.columns.getD [], column.Obeys rule
  aggregate : ∀ a, q.aggregate = some a → ∀ column ∈ a.columns, column.Obeys rule
  table : ∀ table, q.table = some table → table.Obeys rule
  groups : ∀ column ∈ q.groups, column.Obeys rule
  havings : ∀ clause ∈ q.havings, clause.test.Obeys rule
  orders : ∀ key ∈ q.orders, key.column.Obeys rule
  lock : ∀ lock, q.lock = some lock → lock.Obeys rule
  unionOrders : ∀ key ∈ q.unionOrders, key.column.Obeys rule

mutual
/-- Every expression of the query is allowed by the rule. -/
def Query.Obeys : Query → Prop
  | q@{ joins, conditions, members, .. } =>
    q.PartsObey rule ∧ JoinsObey joins ∧ ClausesObey conditions ∧ MembersObey members

def JoinsObey : List Join → Prop
  | [] => True
  | { table, conditions, .. } :: joins =>
    table.Obeys rule ∧ ClausesObey conditions ∧ JoinsObey joins

def ClausesObey : List Clause → Prop
  | [] => True
  | { predicate, .. } :: clauses => predicate.Obeys ∧ ClausesObey clauses

def Predicate.Obeys : Predicate → Prop
  | .compare column _ operand => column.Obeys rule ∧ operand.Obeys rule
  | .compareColumns first _ second => first.Obeys rule ∧ second.Obeys rule
  | .oneOf _ column operands => column.Obeys rule ∧ ∀ operand ∈ operands, operand.Obeys rule
  | .oneOfQuery _ column query => column.Obeys rule ∧ query.Obeys
  | .null _ column => column.Obeys rule
  | .between _ column low high => column.Obeys rule ∧ low.Obeys rule ∧ high.Obeys rule
  | .existsQuery _ query => query.Obeys
  | .nested clauses => ClausesObey clauses
  | .raw sql bindings => rule.clause sql.text bindings
  | .datePart _ column _ operand => column.Obeys rule ∧ operand.Obeys rule
  | .jsonContains _ column _ => column.Obeys rule
  | .jsonLength column _ operand => column.Obeys rule ∧ operand.Obeys rule

def MembersObey : List Member → Prop
  | [] => True
  | { query, .. } :: members => query.Obeys ∧ MembersObey members
end

end SqlCompose
