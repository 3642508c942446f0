import SqlCompose.Dialect.Basic

/-! # PostgreSQL queries -/
namespace SqlCompose.QueryDialect

namespace Postgres

def operators : List String :=
  ["=", "<", ">", "<=", ">=", "<>", "!=", "like", "not like", "between", "ilike", "not ilike", "~",
    "&", "|", "#", "<<", ">>", "<<=", ">>=", "&&", "@>", "<@", "?", "?|", "?&", "||", "-", "@?",
    "@@", "#-", "is distinct from", "is not distinct from"]

def limit (b : Bounds) : String :=
  match b.limit with
  | some n => "limit " ++ toString n.toNat
  | none => ""

def offset (b : Bounds) : String :=
  match b.offset with
  | some n => "offset " ++ toString n.toNat
  | none => ""

/-- Dates and times are casts; the other parts are extracted. -/
def datePart (part : DatePart) (column : String) : String :=
  match part with
  | .date | .time => column ++ "::" ++ part.keyword
  | .day | .month | .year => "extract(" ++ part.keyword ++ " from " ++ column ++ ")"

def jsonContains (negated : Bool) (column : String) : String × String :=
  ((if negated then "not " else "") ++ "(" ++ column ++ ")::jsonb @> ", "")

end Postgres

def postgres (tablePrefix : String) : QueryDialect where
  name := "PostgreSQL"
  quoter := ⟨'"', tablePrefix⟩
  operators := Postgres.operators
  sharedLock := "for share"
  limit := Postgres.limit
  offset := Postgres.offset
  datePart := Postgres.datePart
  jsonContains := Postgres.jsonContains
  jsonLength column := "jsonb_array_length((" ++ column ++ ")::jsonb)"
  truncate table := "truncate " ++ table ++ " restart identity"
  joinedWrites := .listed
  insertIgnore := some .conflictClause
  returnsKey := true

end SqlCompose.QueryDialect
