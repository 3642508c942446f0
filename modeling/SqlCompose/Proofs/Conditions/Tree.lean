import SqlCompose.Proofs.Conditions.Reading

/-!
# Conditions as trees

A condition is a test or a row of conditions in parentheses; in a row a connective stands between each
condition and the next. A list of clauses is such a row, of the clauses that come to something: a
group whose clauses all come to nothing comes to nothing itself.
-/
namespace SqlCompose
namespace Condition

mutual
inductive Tree (α : Type) where
  | test (a : α)
  | group (members : Chain α)
  deriving DecidableEq

inductive Chain (α : Type) where
  | last (condition : Tree α)
  | link (condition : Tree α) (connective : Connective) (rest : Chain α)
  deriving DecidableEq
end

variable {α β : Type}

mutual
def Tree.map (f : α → β) : Tree α → Tree β
  | .test a => .test (f a)
  | .group members => .group (members.map f)

def Chain.map (f : α → β) : Chain α → Chain β
  | .last condition => .last (condition.map f)
  | .link condition connective rest => .link (condition.map f) connective (rest.map f)
end

mutual
/-- How many tests there are. -/
def Tree.size : Tree α → Nat
  | .test _ => 1
  | .group members => members.size

def Chain.size : Chain α → Nat
  | .last condition => condition.size
  | .link condition _ rest => condition.size + rest.size
end

mutual
/-- Whether a condition holds, if the test at each place does or does not; the places are counted from
the left, and the first test of the condition is at `place`. -/
def Tree.holds (truth : Nat → Bool) (place : Nat) : Tree α → Bool
  | .test _ => truth place
  | .group members =>
    readingFrom id (members.values truth place).1 (members.values truth place).2

/-- Whether the first condition of a row holds, and which of the others do. -/
def Chain.values (truth : Nat → Bool) (place : Nat) : Chain α → Bool × List (Connective × Bool)
  | .last condition => (condition.holds truth place, [])
  | .link condition connective rest =>
    (condition.holds truth place,
      (connective, (rest.values truth (place + condition.size)).1) ::
        (rest.values truth (place + condition.size)).2)
end

/-- Whether a row of conditions holds. -/
def Chain.holds (truth : Nat → Bool) (c : Chain α) : Bool :=
  readingFrom id (c.values truth 0).1 (c.values truth 0).2

mutual
theorem Tree.size_map (f : α → β) : ∀ t : Tree α, (t.map f).size = t.size
  | .test _ => rfl
  | .group members => Chain.size_map f members

theorem Chain.size_map (f : α → β) : ∀ c : Chain α, (c.map f).size = c.size
  | .last condition => Tree.size_map f condition
  | .link condition _ rest => by
    simp only [Chain.map, Chain.size, Tree.size_map f condition, Chain.size_map f rest]
end

mutual
/-- What the tests are does not matter, only which of them hold. -/
theorem Tree.holds_map (f : α → β) (truth : Nat → Bool) (place : Nat) :
    ∀ t : Tree α, (t.map f).holds truth place = t.holds truth place
  | .test _ => rfl
  | .group members => by
    simp only [Tree.map, Tree.holds, Chain.values_map f truth place members]

theorem Chain.values_map (f : α → β) (truth : Nat → Bool) (place : Nat) :
    ∀ c : Chain α, (c.map f).values truth place = c.values truth place
  | .last condition => by
    simp only [Chain.map, Chain.values, Tree.holds_map f truth place condition]
  | .link condition _ rest => by
    simp only [Chain.map, Chain.values, Tree.size_map, Tree.holds_map f truth place condition,
      Chain.values_map f truth _ rest]
end

theorem Chain.holds_map (f : α → β) (truth : Nat → Bool) (c : Chain α) :
    (c.map f).holds truth = c.holds truth := by
  rw [holds, values_map, holds]

/-- A condition and those that follow it, each with its connective. -/
def Chain.following (condition : Tree α) : List (Connective × Tree α) → Chain α
  | [] => .last condition
  | (connective, next) :: rest => .link condition connective (following next rest)

/-- A list of conditions as a row; the connective of the first is left out. -/
def Chain.ofList : List (Connective × Tree α) → Option (Chain α)
  | [] => none
  | (_, condition) :: rest => some (following condition rest)

theorem Chain.map_following (f : α → β) (condition : Tree α) (rest : List (Connective × Tree α)) :
    (following condition rest).map f =
      following (condition.map f) (rest.map fun c => (c.1, c.2.map f)) := by
  induction rest generalizing condition with
  | nil => rfl
  | cons next rest ih => simp [following, Chain.map, ih]

end Condition

open Condition (Chain)

mutual
/-- The condition that a predicate is; a group without conditions is none. -/
def Predicate.tree : Predicate → Option (Condition.Tree Predicate)
  | .nested clauses => (Chain.ofList (clauseTrees clauses)).map .group
  | p => some (.test p)

/-- The conditions of a list of clauses, each with the connective of its clause. -/
def clauseTrees : List Clause → List (Connective × Condition.Tree Predicate)
  | [] => []
  | { connective, predicate } :: clauses =>
    match predicate.tree with
    | none => clauseTrees clauses
    | some tree => (connective, tree) :: clauseTrees clauses
end

/-- A list of clauses as a row, if it has conditions. -/
def clauseChain (clauses : List Clause) : Option (Chain Predicate) :=
  Chain.ofList (clauseTrees clauses)

end SqlCompose
