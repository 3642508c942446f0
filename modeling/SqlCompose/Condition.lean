import SqlCompose.Fragment
import SqlCompose.Query.Basic

/-!
# Lists of conditions

Conditions are joined by the connective of the later one; the connective of the first is left out.
-/
namespace SqlCompose

/-- Conditions after the first, each with its connective in front. -/
def followingConditions : List (Connective × String) → String
  | [] => ""
  | (connective, sql) :: rest =>
    " " ++ connective.keyword ++ " " ++ sql ++ followingConditions rest

def joinConditions : List (Connective × String) → String
  | [] => ""
  | (_, sql) :: rest => sql ++ followingConditions rest

/-- A condition with its connective. -/
structure Condition where
  connective : Connective
  fragment : Fragment

namespace Condition

def allBindings (conditions : List Condition) : List Value :=
  conditions.flatMap (·.fragment.bindings)

/-- Every condition, also one without text. -/
def joinAll (conditions : List Condition) : Fragment :=
  ⟨joinConditions (conditions.map fun c => (c.connective, c.fragment.sql)), allBindings conditions⟩

/-- The conditions that have text; the values of the others stay. -/
def join (conditions : List Condition) : Fragment :=
  ⟨(joinAll (conditions.filter fun c => c.fragment.sql ≠ "")).sql, allBindings conditions⟩

/-- The conditions after a keyword; without any there is no keyword either. -/
def under (keyword : String) (conditions : List Condition) : Fragment :=
  let joined := join conditions
  if joined.sql = "" then joined else keyword ++ " " ++ joined

end Condition
end SqlCompose
