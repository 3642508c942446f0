import SqlCompose.Query.Basic

/-!
# Building queries

Steps that each change one part of a query: lists grow at the end, everything else is replaced.
-/
namespace SqlCompose

namespace Clause

def compare (column : Ident) (operator : String) (operand : Operand) : Clause :=
  ⟨.and, .compare column operator operand⟩

def compareColumns (first : Ident) (operator : String) (second : Ident) : Clause :=
  ⟨.and, .compareColumns first operator second⟩

def raw (sql : String) (bindings : List Value) : Clause := ⟨.and, .raw ⟨sql⟩ bindings⟩

/-- Joined to the clause before it by `or`. -/
def orElse (c : Clause) : Clause := { c with connective := .or }

end Clause

namespace HavingClause

def compare (column : Ident) (operator : String) (operand : Operand) : HavingClause :=
  ⟨.and, .compare column operator operand⟩

def raw (sql : String) (bindings : List Value) : HavingClause := ⟨.and, .raw ⟨sql⟩ bindings⟩

/-- Joined to the clause before it by `or`. -/
def orElse (c : HavingClause) : HavingClause := { c with connective := .or }

end HavingClause

namespace Join

def of (kind : JoinKind) (table : Ident) : Join := ⟨kind, table, []⟩

def addCondition (j : Join) (c : Clause) : Join := { j with conditions := j.conditions ++ [c] }

def on (j : Join) (first : Ident) (operator : String) (second : Ident) : Join :=
  j.addCondition (.compareColumns first operator second)

def orOn (j : Join) (first : Ident) (operator : String) (second : Ident) : Join :=
  j.addCondition (Clause.compareColumns first operator second).orElse

end Join

namespace Query

def ofTable (table : Ident) : Query := { table := some table }

def select (q : Query) (columns : List Ident) : Query := { q with columns := some columns }

def makeDistinct (q : Query) : Query := { q with distinct := true }

def aggregateBy (q : Query) (function : AggregateFunction) (columns : List Ident) : Query :=
  { q with aggregate := some ⟨function, columns⟩ }

def addJoin (q : Query) (j : Join) : Query := { q with joins := q.joins ++ [j] }

def addCondition (q : Query) (c : Clause) : Query := { q with conditions := q.conditions ++ [c] }

def addPredicate (q : Query) (p : Predicate) : Query := q.addCondition ⟨.and, p⟩

def groupBy (q : Query) (column : Ident) : Query := { q with groups := q.groups ++ [column] }

def addHaving (q : Query) (c : HavingClause) : Query := { q with havings := q.havings ++ [c] }

def orderBy (q : Query) (column : Ident) (direction : Direction) : Query :=
  { q with orders := q.orders ++ [⟨column, direction⟩] }

def limitTo (q : Query) (n : UInt64) : Query := { q with limit := some n }

def offsetBy (q : Query) (n : UInt64) : Query := { q with offset := some n }

def withLock (q : Query) (lock : Lock) : Query := { q with lock := some lock }

def union (q : Query) (other : Query) (all : Bool) : Query :=
  { q with members := q.members ++ [⟨other, all⟩] }

end Query
end SqlCompose
