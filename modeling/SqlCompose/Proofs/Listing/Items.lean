import SqlCompose.Query.Basic
import SqlCompose.Row

/-!
# Items of a query in written order

A query is written joins first, then its conditions, the conditions of its groups and the united
queries; an inner query and nested conditions are written where they stand. What each clause
contributes to a list is put together in that order. Two such lists are the operators of a query and
its values.
-/
namespace SqlCompose

/-- What a clause contributes by itself, apart from the clauses and queries in it. -/
structure Listing (α : Type) where
  test : HavingTest → List α
  predicate : Predicate → List α

section

variable {α : Type} (l : Listing α)

def havingItems (havings : List HavingClause) : List α := havings.flatMap fun c => l.test c.test

mutual
def Query.items : Query → List α
  | { joins, conditions, havings, members, .. } =>
    joinItems joins ++ (clauseItems conditions ++ (havingItems l havings ++ memberItems members))

def joinItems : List Join → List α
  | [] => []
  | { conditions, .. } :: joins => clauseItems conditions ++ joinItems joins

def clauseItems : List Clause → List α
  | [] => []
  | { predicate, .. } :: clauses => Predicate.items predicate ++ clauseItems clauses

def Predicate.items : Predicate → List α
  | .oneOfQuery _ _ query => Query.items query
  | .existsQuery _ query => Query.items query
  | .nested clauses => clauseItems clauses
  | p => l.predicate p

def memberItems : List Member → List α
  | [] => []
  | { query, .. } :: members => Query.items query ++ memberItems members
end

end

/-! ## Operators -/

def HavingTest.operators : HavingTest → List String
  | .compare _ operator _ => [operator]
  | .raw _ _ => []

/-- The operators of comparisons, with an operand, a column, a part of a date or a length. -/
def Predicate.operators : Predicate → List String
  | .compare _ operator _ | .compareColumns _ operator _ | .datePart _ _ operator _
  | .jsonLength _ operator _ => [operator]
  | _ => []

def operatorListing : Listing String := ⟨HavingTest.operators, Predicate.operators⟩

/-- The operators of a query, also of its inner and united queries. -/
def Query.operators (q : Query) : List String := q.items operatorListing

/-! ## Values -/

def Operand.values : Operand → List Value
  | .value v => [v]
  | .raw _ => []

def HavingTest.values : HavingTest → List Value
  | .compare _ _ operand => operand.values
  | .raw _ bindings => bindings

/-- The values of operands, the document that a column is to contain, and what trusted SQL brings. -/
def Predicate.values : Predicate → List Value
  | .compare _ _ operand | .datePart _ _ _ operand | .jsonLength _ _ operand => operand.values
  | .oneOf _ _ operands => operands.flatMap Operand.values
  | .between _ _ low high => low.values ++ high.values
  | .jsonContains _ _ document => [.json document]
  | .raw _ bindings => bindings
  | _ => []

def valueListing : Listing Value := ⟨HavingTest.values, Predicate.values⟩

/-- The values of a query, also of its inner and united queries. -/
def Query.values (q : Query) : List Value := q.items valueListing

def Row.values (row : Row) : List Value := row.operands.flatMap Operand.values

end SqlCompose
