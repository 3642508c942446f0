import Mathlib.Data.List.Forall2
import SqlCompose.Proofs.Expressions

/-!
# Corresponding queries

Two queries correspond when they have one structure and differ only in names, values and trusted SQL,
and there only as a correspondence allows. What is fixed on both sides are the kinds of clauses, their
connectives and operators, bounds, directions and locks.
-/
namespace SqlCompose

/-- Which names, values and trusted SQL may stand in the same place of two queries. -/
structure Correspondence where
  column : String → String → Prop
  table : String → String → Prop
  value : Value → Value → Prop
  /-- SQL in the place of a name, an operand or a lock. -/
  expression : String → String → Prop
  /-- SQL that stands as a clause, with its values. -/
  clause : String → List Value → String → List Value → Prop

namespace Correspondence

variable (c : Correspondence)

inductive Columns : Ident → Ident → Prop
  | name {s s' : String} (related : c.column s s') : Columns (.name s) (.name s')
  | raw {sql sql' : Expression} (related : c.expression sql.text sql'.text) :
    Columns (.raw sql) (.raw sql')

inductive Tables : Ident → Ident → Prop
  | name {s s' : String} (related : c.table s s') : Tables (.name s) (.name s')
  | raw {sql sql' : Expression} (related : c.expression sql.text sql'.text) :
    Tables (.raw sql) (.raw sql')

inductive Operands : Operand → Operand → Prop
  | value {v v' : Value} (related : c.value v v') : Operands (.value v) (.value v')
  | raw {sql sql' : Expression} (related : c.expression sql.text sql'.text) :
    Operands (.raw sql) (.raw sql')

inductive Locks : Lock → Lock → Prop
  | exclusive : Locks .exclusive .exclusive
  | shared : Locks .shared .shared
  | raw {sql sql' : Expression} (related : c.expression sql.text sql'.text) :
    Locks (.raw sql) (.raw sql')

inductive Aggregates : Aggregate → Aggregate → Prop
  | mk {function : AggregateFunction} {columns columns' : List Ident}
    (related : List.Forall₂ c.Columns columns columns') :
    Aggregates ⟨function, columns⟩ ⟨function, columns'⟩

inductive SortKeys : SortKey → SortKey → Prop
  | mk {direction : Direction} {column column' : Ident} (related : c.Columns column column') :
    SortKeys ⟨column, direction⟩ ⟨column', direction⟩

inductive Tests : HavingTest → HavingTest → Prop
  | compare {column column' : Ident} {operator : String} {operand operand' : Operand}
    (left : c.Columns column column') (right : c.Operands operand operand') :
    Tests (.compare column operator operand) (.compare column' operator operand')
  | raw {sql sql' : Expression} {values values' : List Value}
    (related : c.clause sql.text values sql'.text values') : Tests (.raw sql values) (.raw sql' values')

inductive Havings : HavingClause → HavingClause → Prop
  | mk {connective : Connective} {test test' : HavingTest} (related : c.Tests test test') :
    Havings ⟨connective, test⟩ ⟨connective, test'⟩

/-- What two queries hold outside their joins, conditions and united queries corresponds. -/
structure Parts (q q' : Query) : Prop where
  columns : Option.Rel (List.Forall₂ c.Columns) q.columns q'.columns
  distinct : q'.distinct = q.distinct
  aggregate : Option.Rel c.Aggregates q.aggregate q'.aggregate
  table : Option.Rel c.Tables q.table q'.table
  groups : List.Forall₂ c.Columns q.groups q'.groups
  havings : List.Forall₂ c.Havings q.havings q'.havings
  orders : List.Forall₂ c.SortKeys q.orders q'.orders
  limit : q'.limit = q.limit
  offset : q'.offset = q.offset
  lock : Option.Rel c.Locks q.lock q'.lock
  unionOrders : List.Forall₂ c.SortKeys q.unionOrders q'.unionOrders
  unionLimit : q'.unionLimit = q.unionLimit
  unionOffset : q'.unionOffset = q.unionOffset

mutual
inductive Queries : Query → Query → Prop
  | mk {q q' : Query} (parts : c.Parts q q') (joins : JoinLists q.joins q'.joins)
    (conditions : ClauseLists q.conditions q'.conditions)
    (members : MemberLists q.members q'.members) : Queries q q'

inductive JoinLists : List Join → List Join → Prop
  | nil : JoinLists [] []
  | cons {kind : JoinKind} {table table' : Ident} {conditions conditions' : List Clause}
    {joins joins' : List Join} (named : c.Tables table table')
    (met : ClauseLists conditions conditions') (others : JoinLists joins joins') :
    JoinLists (⟨kind, table, conditions⟩ :: joins) (⟨kind, table', conditions'⟩ :: joins')

inductive ClauseLists : List Clause → List Clause → Prop
  | nil : ClauseLists [] []
  | cons {connective : Connective} {p p' : Predicate} {clauses clauses' : List Clause}
    (first : Predicates p p') (others : ClauseLists clauses clauses') :
    ClauseLists (⟨connective, p⟩ :: clauses) (⟨connective, p'⟩ :: clauses')

inductive Predicates : Predicate → Predicate → Prop
  | compare {column column' : Ident} {operator : String} {operand operand' : Operand}
    (left : c.Columns column column') (right : c.Operands operand operand') :
    Predicates (.compare column operator operand) (.compare column' operator operand')
  | compareColumns {first first' second second' : Ident} {operator : String}
    (left : c.Columns first first') (right : c.Columns second second') :
    Predicates (.compareColumns first operator second) (.compareColumns first' operator second')
  | oneOf {negated : Bool} {column column' : Ident} {operands operands' : List Operand}
    (left : c.Columns column column') (right : List.Forall₂ c.Operands operands operands') :
    Predicates (.oneOf negated column operands) (.oneOf negated column' operands')
  | oneOfQuery {negated : Bool} {column column' : Ident} {q q' : Query}
    (left : c.Columns column column') (inner : Queries q q') :
    Predicates (.oneOfQuery negated column q) (.oneOfQuery negated column' q')
  | null {negated : Bool} {column column' : Ident} (related : c.Columns column column') :
    Predicates (.null negated column) (.null negated column')
  | between {negated : Bool} {column column' : Ident} {low low' high high' : Operand}
    (left : c.Columns column column') (lower : c.Operands low low') (upper : c.Operands high high') :
    Predicates (.between negated column low high) (.between negated column' low' high')
  | existsQuery {negated : Bool} {q q' : Query} (inner : Queries q q') :
    Predicates (.existsQuery negated q) (.existsQuery negated q')
  | nested {clauses clauses' : List Clause} (inner : ClauseLists clauses clauses') :
    Predicates (.nested clauses) (.nested clauses')
  | raw {sql sql' : Expression} {values values' : List Value}
    (related : c.clause sql.text values sql'.text values') :
    Predicates (.raw sql values) (.raw sql' values')
  | datePart {part : DatePart} {column column' : Ident} {operator : String}
    {operand operand' : Operand} (left : c.Columns column column')
    (right : c.Operands operand operand') :
    Predicates (.datePart part column operator operand) (.datePart part column' operator operand')
  | jsonContains {negated : Bool} {column column' : Ident} {document document' : Json}
    (left : c.Columns column column') (right : c.value (.json document) (.json document')) :
    Predicates (.jsonContains negated column document) (.jsonContains negated column' document')
  | jsonLength {column column' : Ident} {operator : String} {operand operand' : Operand}
    (left : c.Columns column column') (right : c.Operands operand operand') :
    Predicates (.jsonLength column operator operand) (.jsonLength column' operator operand')

inductive MemberLists : List Member → List Member → Prop
  | nil : MemberLists [] []
  | cons {all : Bool} {q q' : Query} {members members' : List Member} (one : Queries q q')
    (others : MemberLists members members') :
    MemberLists (⟨q, all⟩ :: members) (⟨q', all⟩ :: members')
end

/-- The columns of two rows correspond in their order, and so do the operands under them. -/
def Rows (row row' : Row) : Prop :=
  List.Forall₂ (fun e e' => c.column e.1 e'.1 ∧ c.Operands e.2 e'.2) row.entries row'.entries

inductive Assignments : Assignment → Assignment → Prop
  | inserted {s s' : String} (related : c.column s s') : Assignments (.inserted s) (.inserted s')
  | set {s s' : String} {operand operand' : Operand} (left : c.column s s')
    (right : c.Operands operand operand') : Assignments (.set s operand) (.set s' operand')

end Correspondence

/-! ## A query corresponds to itself -/

/-- Everything is the same on both sides, and the rule allows its trusted SQL. -/
def ExpressionRule.diagonal (rule : ExpressionRule) : Correspondence where
  column s s' := s' = s
  table s s' := s' = s
  value v v' := v' = v
  expression s s' := rule.text s ∧ s' = s
  clause s values s' values' := rule.clause s values ∧ s' = s ∧ values' = values

/-- Names, values and what the rule allows correspond to themselves. -/
structure ExpressionRule.Within (rule : ExpressionRule) (c : Correspondence) : Prop where
  column (s : String) : c.column s s
  table (s : String) : c.table s s
  value (v : Value) : c.value v v
  expression {s : String} : rule.text s → c.expression s s
  clause {s : String} {values : List Value} : rule.clause s values → c.clause s values s values

theorem ExpressionRule.within_diagonal (rule : ExpressionRule) : rule.Within rule.diagonal where
  column _ := rfl
  table _ := rfl
  value _ := rfl
  expression allowed := ⟨allowed, rfl⟩
  clause allowed := ⟨allowed, rfl, rfl⟩

/-- What stands in an option is related to itself. -/
theorem rel_of_some {α : Type} {R : α → α → Prop} {o : Option α} (related : ∀ a, o = some a → R a a) :
    Option.Rel R o o := by
  cases o with
  | none => exact .none
  | some a => exact .some (related a rfl)

variable {rule : ExpressionRule} {c : Correspondence}

section

variable (within : rule.Within c)

include within

theorem Ident.Obeys.columns {i : Ident} (allowed : i.Obeys rule) : c.Columns i i := by
  cases i with
  | name text => exact .name (within.column text)
  | raw sql => exact .raw (within.expression allowed)

theorem Ident.Obeys.tables {i : Ident} (allowed : i.Obeys rule) : c.Tables i i := by
  cases i with
  | name text => exact .name (within.table text)
  | raw sql => exact .raw (within.expression allowed)

theorem Operand.Obeys.operands {o : Operand} (allowed : o.Obeys rule) : c.Operands o o := by
  cases o with
  | value v => exact .value (within.value v)
  | raw sql => exact .raw (within.expression allowed)

theorem Lock.Obeys.locks {l : Lock} (allowed : l.Obeys rule) : c.Locks l l := by
  cases l with
  | exclusive => exact .exclusive
  | shared => exact .shared
  | raw sql => exact .raw (within.expression allowed)

theorem HavingTest.Obeys.tests {t : HavingTest} (allowed : t.Obeys rule) : c.Tests t t := by
  cases t with
  | compare column operator operand =>
    exact .compare (allowed.1.columns within) (allowed.2.operands within)
  | raw sql bindings => exact .raw (within.clause allowed)

theorem Ident.columns_of_obey {names : List Ident} (allowed : ∀ i ∈ names, i.Obeys rule) :
    List.Forall₂ c.Columns names names :=
  List.forall₂_same.mpr fun i member => (allowed i member).columns within

theorem Operand.operands_of_obey {os : List Operand} (allowed : ∀ o ∈ os, o.Obeys rule) :
    List.Forall₂ c.Operands os os :=
  List.forall₂_same.mpr fun o member => (allowed o member).operands within

theorem SortKey.keys_of_obey {keys : List SortKey} (allowed : ∀ k ∈ keys, k.column.Obeys rule) :
    List.Forall₂ c.SortKeys keys keys :=
  List.forall₂_same.mpr fun k member => .mk ((allowed k member).columns within)

theorem HavingClause.havings_of_obey {clauses : List HavingClause}
    (allowed : ∀ h ∈ clauses, h.test.Obeys rule) : List.Forall₂ c.Havings clauses clauses :=
  List.forall₂_same.mpr fun h member => .mk ((allowed h member).tests within)

theorem Ident.table_of_obey {t : Option Ident} (allowed : ∀ i, t = some i → i.Obeys rule) :
    Option.Rel c.Tables t t :=
  rel_of_some fun i given => (allowed i given).tables within

theorem Query.PartsObey.parts {q : Query} (allowed : q.PartsObey rule) : c.Parts q q where
  columns := rel_of_some fun names given => Ident.columns_of_obey within <| by
    simpa [given] using allowed.columns
  distinct := rfl
  aggregate := rel_of_some fun a given => .mk (Ident.columns_of_obey within (allowed.aggregate a given))
  table := Ident.table_of_obey within allowed.table
  groups := Ident.columns_of_obey within allowed.groups
  havings := HavingClause.havings_of_obey within allowed.havings
  orders := SortKey.keys_of_obey within allowed.orders
  limit := rfl
  offset := rfl
  lock := rel_of_some fun l given => (allowed.lock l given).locks within
  unionOrders := SortKey.keys_of_obey within allowed.unionOrders
  unionLimit := rfl
  unionOffset := rfl

theorem Row.Obeys.rows {row : Row} (allowed : row.Obeys rule) : c.Rows row row :=
  List.forall₂_same.mpr fun entry member =>
    ⟨within.column entry.1, (allowed entry.2 (List.mem_map_of_mem member)).operands within⟩

end

mutual
theorem Query.Obeys.queries (within : rule.Within c) : ∀ {q : Query}, q.Obeys rule → c.Queries q q
  | { joins := _, .. }, ⟨parts, inJoins, inConditions, inMembers⟩ =>
    .mk (parts.parts within) (JoinsObey.joinLists within inJoins)
      (ClausesObey.clauseLists within inConditions) (MembersObey.memberLists within inMembers)

theorem JoinsObey.joinLists (within : rule.Within c) : ∀ {joins : List Join}, JoinsObey rule joins →
    c.JoinLists joins joins
  | [], _ => .nil
  | { table := _, .. } :: _, ⟨table, inConditions, others⟩ =>
    .cons (table.tables within) (ClausesObey.clauseLists within inConditions)
      (JoinsObey.joinLists within others)

theorem ClausesObey.clauseLists (within : rule.Within c) : ∀ {clauses : List Clause},
    ClausesObey rule clauses → c.ClauseLists clauses clauses
  | [], _ => .nil
  | { predicate := _, .. } :: _, ⟨first, others⟩ =>
    .cons (Predicate.Obeys.predicates within first) (ClausesObey.clauseLists within others)

theorem Predicate.Obeys.predicates (within : rule.Within c) : ∀ {p : Predicate}, p.Obeys rule →
    c.Predicates p p
  | .compare _ _ _, ⟨column, operand⟩ => .compare (column.columns within) (operand.operands within)
  | .compareColumns _ _ _, ⟨first, second⟩ =>
    .compareColumns (first.columns within) (second.columns within)
  | .oneOf _ _ _, ⟨column, operands⟩ =>
    .oneOf (column.columns within) (Operand.operands_of_obey within operands)
  | .oneOfQuery _ _ _, ⟨column, inQuery⟩ =>
    .oneOfQuery (column.columns within) (Query.Obeys.queries within inQuery)
  | .null _ _, column => .null (Ident.Obeys.columns within column)
  | .between _ _ _ _, ⟨column, low, high⟩ =>
    .between (column.columns within) (low.operands within) (high.operands within)
  | .existsQuery _ _, inQuery => .existsQuery (Query.Obeys.queries within inQuery)
  | .nested _, inClauses => .nested (ClausesObey.clauseLists within inClauses)
  | .raw _ _, allowed => .raw (within.clause allowed)
  | .datePart _ _ _ _, ⟨column, operand⟩ =>
    .datePart (column.columns within) (operand.operands within)
  | .jsonContains _ _ document, column =>
    .jsonContains (Ident.Obeys.columns within column) (within.value (.json document))
  | .jsonLength _ _ _, ⟨column, operand⟩ =>
    .jsonLength (column.columns within) (operand.operands within)

theorem MembersObey.memberLists (within : rule.Within c) : ∀ {members : List Member},
    MembersObey rule members → c.MemberLists members members
  | [], _ => .nil
  | { query := _, .. } :: _, ⟨inQuery, others⟩ =>
    .cons (Query.Obeys.queries within inQuery) (MembersObey.memberLists within others)
end

end SqlCompose
