import SqlCompose.Dialect.Basic

/-!
# A dialect without extensions

It has only the parts that every dialect must have, and shows what the defaults do.
-/
namespace SqlCompose.QueryDialect

namespace Generic

def limit (b : Bounds) : String :=
  match b.limit with
  | some n => "top " ++ toString n.toNat
  | none => ""

def offset (b : Bounds) : String :=
  match b.offset with
  | some n => "skip " ++ toString n.toNat
  | none => ""

end Generic

def generic (tablePrefix : String) : QueryDialect where
  name := "Generic"
  quoter := ⟨'|', tablePrefix⟩
  operators := ["=", "<", ">", "like", "a?b?"]
  sharedLock := "shared"
  limit := Generic.limit
  offset := Generic.offset
  datePart part column := "part(" ++ part.keyword ++ ", " ++ column ++ ")"
  jsonContains negated column :=
    ("contains(" ++ column ++ ", ", ", " ++ (if negated then "true" else "false") ++ ")")
  jsonLength column := "length(" ++ column ++ ")"
  truncate table := "empty " ++ table

end SqlCompose.QueryDialect
