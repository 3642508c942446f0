import SqlCompose.Binary64.Basic
import SqlCompose.Keyed

/-!
# JSON values

Whole numbers and floats are kept apart: a number with a point, an exponent, or out of the range
of 64 bits is a float. The members of an object stand as they are listed. In a value that is read they
are in key order, one for each key (`Json.Ordered`).
-/
namespace SqlCompose

inductive Json where
  | null
  | bool (value : Bool)
  | int (value : Int)
  | float (value : Binary64)
  | string (value : String)
  | array (items : List Json)
  | object (members : List (String × Json))

namespace Json

/-- In every object, also inside, the members stand in key order, one for each key. -/
inductive Ordered : Json → Prop
  | null : Ordered .null
  | bool (value : Bool) : Ordered (.bool value)
  | int (value : Int) : Ordered (.int value)
  | float (value : Binary64) : Ordered (.float value)
  | string (value : String) : Ordered (.string value)
  | array {items : List Json} (each : ∀ item ∈ items, Ordered item) : Ordered (.array items)
  | object {members : List (String × Json)} (sorted : Keyed.Sorted members)
    (each : ∀ m ∈ members, Ordered m.2) : Ordered (.object members)

mutual
/-- Structural equality in which floats are compared as numbers. -/
def eqv : Json → Json → Bool
  | .null, .null => true
  | .bool a, .bool b => a == b
  | .int a, .int b => a == b
  | .float a, .float b => a.numEq b
  | .string a, .string b => a == b
  | .array a, .array b => eqvItems a b
  | .object a, .object b => eqvMembers a b
  | _, _ => false

def eqvItems : List Json → List Json → Bool
  | [], [] => true
  | a :: as, b :: bs => eqv a b && eqvItems as bs
  | _, _ => false

def eqvMembers : List (String × Json) → List (String × Json) → Bool
  | [], [] => true
  | (k, a) :: as, (l, b) :: bs => k == l && eqv a b && eqvMembers as bs
  | _, _ => false
end

end Json
end SqlCompose
