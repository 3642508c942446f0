import SqlCompose.Dialect.Basic

/-! # MySQL queries -/
namespace SqlCompose.QueryDialect

namespace MySql

def operators : List String :=
  ["=", "<", ">", "<=", ">=", "<>", "!=", "<=>", "like", "like binary", "not like", "&", "|", "^",
    "<<", ">>", "rlike", "not rlike", "regexp", "not regexp", "sounds like"]

def limit (b : Bounds) : String :=
  match b.limit with
  | some n => "limit " ++ toString n.toNat
  | none => ""

/-- There is no offset without a limit; the largest 64-bit number stands for none. -/
def offset (b : Bounds) : String :=
  match b.offset, b.limit with
  | none, _ => ""
  | some n, some _ => "offset " ++ toString n.toNat
  | some n, none => "limit 18446744073709551615 offset " ++ toString n.toNat

def jsonContains (negated : Bool) (column : String) : String × String :=
  ((if negated then "not " else "") ++ "json_contains(" ++ column ++ ", ", ")")

end MySql

def mySql (tablePrefix : String) : QueryDialect where
  name := "MySQL"
  quoter := ⟨'\x60', tablePrefix⟩
  operators := MySql.operators
  sharedLock := "lock in share mode"
  limit := MySql.limit
  offset := MySql.offset
  datePart part column := part.keyword ++ "(" ++ column ++ ")"
  jsonContains := MySql.jsonContains
  jsonLength column := "json_length(" ++ column ++ ")"
  truncate table := "truncate table " ++ table
  bracketsUnions := true
  joinedWrites := .multiTable
  insertIgnore := some .keyword
  upserts := true

end SqlCompose.QueryDialect
