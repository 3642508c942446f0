import SqlCompose.Value.Json

/-!
# Names and operands

A name is quoted part by part; an operand is bound to a placeholder. An expression is SQL that the
caller vouches for: it is written as it stands, in the place of either.
-/
namespace SqlCompose

/-- Trusted SQL text. -/
structure Expression where
  text : String
  deriving DecidableEq, Repr

/-- A table or column, possibly dotted and with an alias. -/
inductive Ident where
  | name (text : String)
  | raw (sql : Expression)
  deriving DecidableEq, Repr

/-- The right side of a comparison, an assignment or a column default. -/
inductive Operand where
  | value (value : Value)
  | raw (sql : Expression)

def Expression.toJson (e : Expression) : Json := .object [("raw", .string e.text)]

def Expression.ofJson? : Json → Option Expression
  | .object [("raw", .string text)] => some ⟨text⟩
  | _ => none

def Ident.toJson : Ident → Json
  | .name text => .string text
  | .raw sql => sql.toJson

def Ident.ofJson? : Json → Option Ident
  | .string text => some (.name text)
  | j => (Expression.ofJson? j).map .raw

def Operand.toJson : Operand → Json
  | .value v => v.toJson
  | .raw sql => sql.toJson

def Operand.ofJson? (j : Json) : Option Operand :=
  match Expression.ofJson? j with
  | some sql => some (.raw sql)
  | none => (Value.ofJson? j).map .value

end SqlCompose
