import SqlCompose.Error
import SqlCompose.Fragment
import SqlCompose.Quoter
import SqlCompose.Query.Basic
import SqlCompose.Text.Lowercase

/-!
# Query dialects

What differs between dialects when a query is written: quoting, the operators that are let
through, the spelling of bounds, locks and predicates on dates and documents, and the layout of
statements that change rows. The parts with a default make a dialect without extensions.
-/
namespace SqlCompose

/-- How a value is marked in the text, and how a raw clause is written with its values. -/
structure Slots where
  mark : Value → String
  fill : String → List Value → String

/-- A placeholder for each value; a raw clause brings its own placeholders. -/
def Slots.positional : Slots := ⟨fun _ => "?", fun sql _ => sql⟩

/-- The bounds of a result. -/
structure Bounds where
  limit : Option UInt64
  offset : Option UInt64
  deriving DecidableEq, Repr

/-- The layout of updates and deletes with joins. -/
inductive JoinedWrites where
  /-- Joins stand after the table of an update; a delete leaves them out. -/
  | plain
  /-- Joins stand after the table of an update and of a delete, which names its target first.
  Without joins, both take an order and a limit. -/
  | multiTable
  /-- The joined tables are listed, and their conditions follow those of the statement. -/
  | listed
  deriving DecidableEq, Repr

/-- How an insert passes over rows that are there already. -/
inductive InsertIgnore where
  | keyword
  | conflictClause
  deriving DecidableEq, Repr

structure QueryDialect where
  name : String
  quoter : Quoter
  /-- The comparison operators that are let through, in lower case. -/
  operators : List String
  sharedLock : String
  limit : Bounds → String
  offset : Bounds → String
  /-- The part of a date column. -/
  datePart : DatePart → String → String
  /-- The texts before and after the document that a column is to contain, or is not to. -/
  jsonContains : Bool → String → String × String
  /-- The number of items of a column. -/
  jsonLength : String → String
  truncate : String → String
  /-- Whether the queries of a union stand in parentheses. -/
  bracketsUnions : Bool := false
  joinedWrites : JoinedWrites := .plain
  insertIgnore : Option InsertIgnore := none
  /-- Whether an insert returns the key it made. -/
  returnsKey : Bool := false
  upserts : Bool := false
  slots : Slots := .positional

namespace QueryDialect

variable (d : QueryDialect)

/-- The operator as written: trimmed, in lower case, with each question mark doubled so that it is
no placeholder. -/
def operator (given : String) : Except CompileError String :=
  let word := Text.lowercase (Text.trim given)
  if word ∈ d.operators then
    .ok (String.ofList (Text.replaceChar '?' ['?', '?'] word.toList))
  else .error (.invalidOperator d.name given)

def value (v : Value) : Fragment := ⟨d.slots.mark v, [v]⟩

def operand : Operand → Fragment
  | .value v => d.value v
  | .raw sql => .ofText sql.text

def operands (os : List Operand) : Fragment := Fragment.joinWith ", " (os.map d.operand)

/-- Trusted SQL with the values for its placeholders. -/
def raw (sql : Expression) (bindings : List Value) : Fragment :=
  ⟨d.slots.fill sql.text bindings, bindings⟩

/-- The values of an update in the order in which its text has them. -/
def orderUpdateBindings (join conditions values : List Value) : List Value :=
  match d.joinedWrites with
  | .listed => values ++ conditions ++ join
  | .plain | .multiTable => join ++ values ++ conditions

end QueryDialect
end SqlCompose
