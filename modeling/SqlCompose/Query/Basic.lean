import SqlCompose.Name

/-!
# Queries

A query as data: what is selected, from where, under which conditions, and how the result is
grouped, ordered, bounded, locked and united with other queries. Conditions and members of a union
hold queries of their own.
-/
namespace SqlCompose

/-- Joins a clause to the one before it. -/
inductive Connective where
  | and
  | or
  deriving DecidableEq, Repr

/-- The part of a date that is compared. -/
inductive DatePart where
  | date
  | time
  | day
  | month
  | year
  deriving DecidableEq, Repr

inductive AggregateFunction where
  | count
  | sum
  | avg
  | min
  | max
  deriving DecidableEq, Repr

structure Aggregate where
  function : AggregateFunction
  columns : List Ident
  deriving DecidableEq, Repr

inductive JoinKind where
  | inner
  | left
  | right
  | cross
  deriving DecidableEq, Repr

inductive Direction where
  | asc
  | desc
  deriving DecidableEq, Repr

structure SortKey where
  column : Ident
  direction : Direction
  deriving DecidableEq, Repr

inductive Lock where
  | exclusive
  | shared
  | raw (sql : Expression)
  deriving DecidableEq, Repr

/-- What a clause after `having` tests. -/
inductive HavingTest where
  | compare (column : Ident) (operator : String) (operand : Operand)
  | raw (sql : Expression) (bindings : List Value)

structure HavingClause where
  connective : Connective
  test : HavingTest

mutual
/-- A condition. The flag `negated` stands for a `not`. -/
inductive Predicate where
  | compare (column : Ident) (operator : String) (operand : Operand)
  | compareColumns (first : Ident) (operator : String) (second : Ident)
  | oneOf (negated : Bool) (column : Ident) (operands : List Operand)
  | oneOfQuery (negated : Bool) (column : Ident) (query : Query)
  | null (negated : Bool) (column : Ident)
  | between (negated : Bool) (column : Ident) (low high : Operand)
  | existsQuery (negated : Bool) (query : Query)
  | nested (clauses : List Clause)
  /-- Trusted SQL with the values for its own placeholders. -/
  | raw (sql : Expression) (bindings : List Value)
  | datePart (part : DatePart) (column : Ident) (operator : String) (operand : Operand)
  | jsonContains (negated : Bool) (column : Ident) (document : Json)
  | jsonLength (column : Ident) (operator : String) (operand : Operand)

structure Clause where
  connective : Connective
  predicate : Predicate

/-- A joined table with its own conditions. -/
structure Join where
  kind : JoinKind
  table : Ident
  conditions : List Clause

/-- A query that is united with the one before it. -/
structure Member where
  query : Query
  all : Bool

structure Query where
  /-- None and the empty list select every column. -/
  columns : Option (List Ident) := none
  distinct : Bool := false
  aggregate : Option Aggregate := none
  table : Option Ident := none
  joins : List Join := []
  conditions : List Clause := []
  groups : List Ident := []
  havings : List HavingClause := []
  orders : List SortKey := []
  limit : Option UInt64 := none
  offset : Option UInt64 := none
  lock : Option Lock := none
  members : List Member := []
  /-- Order and bounds of the union as a whole. -/
  unionOrders : List SortKey := []
  unionLimit : Option UInt64 := none
  unionOffset : Option UInt64 := none
end

def Connective.keyword : Connective → String
  | .and => "and"
  | .or => "or"

def DatePart.keyword : DatePart → String
  | .date => "date"
  | .time => "time"
  | .day => "day"
  | .month => "month"
  | .year => "year"

def AggregateFunction.keyword : AggregateFunction → String
  | .count => "count"
  | .sum => "sum"
  | .avg => "avg"
  | .min => "min"
  | .max => "max"

def JoinKind.keyword : JoinKind → String
  | .inner => "inner"
  | .left => "left"
  | .right => "right"
  | .cross => "cross"

def Direction.keyword : Direction → String
  | .asc => "asc"
  | .desc => "desc"

instance : Inhabited Query := ⟨{}⟩

end SqlCompose
