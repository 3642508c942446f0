import SqlCompose.Json.Fields
import SqlCompose.Query.Basic

/-!
# JSON form of queries

An object for each part. A clause carries its predicate's fields beside its connective, under a
tag that tells the predicate. Fields that may be left out are written all the same. Whatever a
predicate holds stands beneath its tag, also the queries in it.
-/
namespace SqlCompose

open Json.Members

def Connective.ofJsonAt? : Json.Place → Json → Option Connective :=
  Json.oneOf? [("and", .and), ("or", .or)]

/-- A part of a date, which stands beneath the tag of its predicate. -/
def DatePart.ofJson? : Json → Option DatePart :=
  Json.oneOf? [("date", .date), ("time", .time), ("day", .day), ("month", .month), ("year", .year)]
    .tagged

def AggregateFunction.ofJsonAt? : Json.Place → Json → Option AggregateFunction :=
  Json.oneOf? [("count", .count), ("sum", .sum), ("avg", .avg), ("min", .min), ("max", .max)]

def JoinKind.ofJsonAt? : Json.Place → Json → Option JoinKind :=
  Json.oneOf? [("inner", .inner), ("left", .left), ("right", .right), ("cross", .cross)]

def Direction.ofJsonAt? : Json.Place → Json → Option Direction :=
  Json.oneOf? [("asc", .asc), ("desc", .desc)]

namespace Aggregate

def toJson (a : Aggregate) : Json :=
  .object [("columns", .array (a.columns.map Ident.toJson)),
    ("function", .string a.function.keyword)]

def ofJsonAt? (place : Json.Place) (j : Json) : Option Aggregate := do
  let members ← j.members?
  let function ← required? members "function" (AggregateFunction.ofJsonAt? place)
  let columns ← required? members "columns" (Json.list? Ident.ofJson?)
  return ⟨function, columns⟩

end Aggregate

namespace SortKey

def toJson (k : SortKey) : Json :=
  .object [("column", k.column.toJson), ("direction", .string k.direction.keyword)]

def ofJsonAt? (place : Json.Place) (j : Json) : Option SortKey := do
  let members ← j.members?
  let column ← required? members "column" Ident.ofJson?
  let direction ← defaulted? members "direction" (Direction.ofJsonAt? place) .asc
  return ⟨column, direction⟩

end SortKey

namespace Lock

def toJson : Lock → Json
  | .exclusive => .string "exclusive"
  | .shared => .string "shared"
  | .raw sql => .object [("raw", sql.toJson)]

def ofJsonAt? (place : Json.Place) : Json → Option Lock
  | .object [("raw", sql)] => (Expression.ofJson? sql).map .raw
  | j => Json.oneOf? [("exclusive", .exclusive), ("shared", .shared)] place j

end Lock

namespace HavingTest

def tags : List String := ["basic", "raw"]

def members : HavingTest → List (String × Json)
  | .compare column operator operand =>
    [("column", column.toJson), ("operator", .string operator), ("type", .string "basic"),
      ("value", operand.toJson)]
  | .raw sql bindings =>
    [("bindings", .array (bindings.map Value.toJson)), ("sql", sql.toJson),
      ("type", .string "raw")]

def ofMembers? (members : Json.Members) : Option HavingTest := do
  match ← required? members "type" (Json.tag? tags) with
  | "basic" =>
    return .compare (← required? members "column" Ident.ofJson?)
      (← required? members "operator" Json.string?) (← required? members "value" Operand.ofJson?)
  | "raw" =>
    return .raw (← required? members "sql" Expression.ofJson?)
      (← defaulted? members "bindings" (Json.list? (Value.ofJsonAt? .tagged)) [])
  | _ => none

end HavingTest

namespace HavingClause

def toJson (c : HavingClause) : Json :=
  .object (("boolean", .string c.connective.keyword) :: c.test.members)

def ofJsonAt? (place : Json.Place) (j : Json) : Option HavingClause := do
  let members ← j.members?
  let connective ← defaulted? members "boolean" (Connective.ofJsonAt? place) .and
  return ⟨connective, ← HavingTest.ofMembers? members⟩

end HavingClause

mutual
def Predicate.members : Predicate → List (String × Json)
  | .compare column operator operand =>
    [("column", column.toJson), ("operator", .string operator), ("type", .string "basic"),
      ("value", operand.toJson)]
  | .compareColumns first operator second =>
    [("first", first.toJson), ("operator", .string operator), ("second", second.toJson),
      ("type", .string "column")]
  | .oneOf negated column operands =>
    [("column", column.toJson), ("type", .string (if negated then "not_in" else "in")),
      ("values", .array (operands.map Operand.toJson))]
  | .oneOfQuery negated column query =>
    [("column", column.toJson), ("query", Query.toJson query),
      ("type", .string (if negated then "not_in_sub" else "in_sub"))]
  | .null negated column =>
    [("column", column.toJson), ("type", .string (if negated then "not_null" else "null"))]
  | .between negated column low high =>
    [("column", column.toJson), ("not", .bool negated), ("type", .string "between"),
      ("values", .array [low.toJson, high.toJson])]
  | .existsQuery negated query =>
    [("query", Query.toJson query),
      ("type", .string (if negated then "not_exists" else "exists"))]
  | .nested clauses => [("type", .string "nested"), ("wheres", .array (clausesToJson clauses))]
  | .raw sql bindings =>
    [("bindings", .array (bindings.map Value.toJson)), ("sql", sql.toJson),
      ("type", .string "raw")]
  | .datePart part column operator operand =>
    [("column", column.toJson), ("operator", .string operator), ("part", .string part.keyword),
      ("type", .string "date_part"), ("value", operand.toJson)]
  | .jsonContains negated column document =>
    [("column", column.toJson), ("not", .bool negated), ("type", .string "json_contains"),
      ("value", document)]
  | .jsonLength column operator operand =>
    [("column", column.toJson), ("operator", .string operator), ("type", .string "json_length"),
      ("value", operand.toJson)]

def Clause.toJson : Clause → Json
  | { connective, predicate } =>
    .object (("boolean", .string connective.keyword) :: Predicate.members predicate)

def clausesToJson : List Clause → List Json
  | [] => []
  | clause :: clauses => Clause.toJson clause :: clausesToJson clauses

def Join.toJson : Join → Json
  | { kind, table, conditions } =>
    .object [("kind", .string kind.keyword), ("table", table.toJson),
      ("wheres", .array (clausesToJson conditions))]

def joinsToJson : List Join → List Json
  | [] => []
  | join :: joins => Join.toJson join :: joinsToJson joins

def Member.toJson : Member → Json
  | { query, all } => .object [("all", .bool all), ("query", Query.toJson query)]

def membersToJson : List Member → List Json
  | [] => []
  | member :: members => Member.toJson member :: membersToJson members

def Query.toJson : Query → Json
  | { columns, distinct, aggregate, table, joins, conditions, groups, havings, orders, limit,
      offset, lock, members, unionOrders, unionLimit, unionOffset } =>
    .object [
      ("aggregate", Json.ofOption Aggregate.toJson aggregate),
      ("columns", Json.ofOption (fun cs => .array (cs.map Ident.toJson)) columns),
      ("distinct", .bool distinct),
      ("from", Json.ofOption Ident.toJson table),
      ("groups", .array (groups.map Ident.toJson)),
      ("havings", .array (havings.map HavingClause.toJson)),
      ("joins", .array (joinsToJson joins)),
      ("limit", Json.ofOption (fun n => .int n.toNat) limit),
      ("lock", Json.ofOption Lock.toJson lock),
      ("offset", Json.ofOption (fun n => .int n.toNat) offset),
      ("orders", .array (orders.map SortKey.toJson)),
      ("union_limit", Json.ofOption (fun n => .int n.toNat) unionLimit),
      ("union_offset", Json.ofOption (fun n => .int n.toNat) unionOffset),
      ("union_orders", .array (unionOrders.map SortKey.toJson)),
      ("unions", .array (membersToJson members)),
      ("wheres", .array (clausesToJson conditions))]
end

/-- The tags of predicates. -/
def Predicate.tags : List String :=
  ["basic", "column", "in", "not_in", "in_sub", "not_in_sub", "null", "not_null", "between",
    "exists", "not_exists", "nested", "raw", "date_part", "json_contains", "json_length"]

/-- Exactly two operands. -/
def bounds? (j : Json) : Option (Operand × Operand) :=
  match j with
  | .array [low, high] => do return (← Operand.ofJson? low, ← Operand.ofJson? high)
  | _ => none

/-- A predicate from its fields. The readings of the two fields that hold queries are given. -/
def Predicate.ofMembers? (members : Json.Members) (query : Option Query)
    (clauses : Option (List Clause)) : Option Predicate := do
  let column? := required? members "column" Ident.ofJson?
  let operator? := required? members "operator" Json.string?
  let operand? := required? members "value" Operand.ofJson?
  let operands? := required? members "values" (Json.list? Operand.ofJson?)
  match ← required? members "type" (Json.tag? tags) with
  | "basic" => return .compare (← column?) (← operator?) (← operand?)
  | "column" =>
    return .compareColumns (← required? members "first" Ident.ofJson?) (← operator?)
      (← required? members "second" Ident.ofJson?)
  | "in" => return .oneOf false (← column?) (← operands?)
  | "not_in" => return .oneOf true (← column?) (← operands?)
  | "in_sub" => return .oneOfQuery false (← column?) (← query)
  | "not_in_sub" => return .oneOfQuery true (← column?) (← query)
  | "null" => return .null false (← column?)
  | "not_null" => return .null true (← column?)
  | "between" => do
    let (low, high) ← required? members "values" bounds?
    return .between (← defaulted? members "not" Json.bool? false) (← column?) low high
  | "exists" => return .existsQuery false (← query)
  | "not_exists" => return .existsQuery true (← query)
  | "nested" => return .nested (← clauses)
  | "raw" =>
    return .raw (← required? members "sql" Expression.ofJson?)
      (← defaulted? members "bindings" (Json.list? (Value.ofJsonAt? .tagged)) [])
  | "date_part" =>
    return .datePart (← required? members "part" DatePart.ofJson?) (← column?) (← operator?)
      (← operand?)
  | "json_contains" =>
    return .jsonContains (← defaulted? members "not" Json.bool? false) (← column?)
      (← required? members "value" some)
  | "json_length" => return .jsonLength (← column?) (← operator?) (← operand?)
  | _ => none

/-- The parts of a query that hold no other query. -/
def Query.ofFlatMembers? (place : Json.Place) (members : Json.Members) : Option Query := do
  let keys := Json.list? (SortKey.ofJsonAt? place)
  return {
    columns := ← optional? members "columns" (Json.list? Ident.ofJson?)
    distinct := ← defaulted? members "distinct" Json.bool? false
    aggregate := ← optional? members "aggregate" (Aggregate.ofJsonAt? place)
    table := ← optional? members "from" Ident.ofJson?
    groups := ← defaulted? members "groups" (Json.list? Ident.ofJson?) []
    havings := ← defaulted? members "havings" (Json.list? (HavingClause.ofJsonAt? place)) []
    orders := ← defaulted? members "orders" keys []
    limit := ← optional? members "limit" Json.uint64?
    offset := ← optional? members "offset" Json.uint64?
    lock := ← optional? members "lock" (Lock.ofJsonAt? place)
    unionOrders := ← defaulted? members "union_orders" keys []
    unionLimit := ← optional? members "union_limit" Json.uint64?
    unionOffset := ← optional? members "union_offset" Json.uint64? }

mutual
def Query.ofJsonAt? (place : Json.Place) : Json → Option Query
  | .object members => do
    let flat ← Query.ofFlatMembers? place members
    return { flat with
      joins := ← joinsUnder? place members
      conditions := ← (clausesUnder? place members).getD (some [])
      members := ← unitedUnder? place members }
  | _ => none

/-- The query under the key `query`. -/
def queryUnder? (place : Json.Place) : List (String × Json) → Option Query
  | [] => none
  | (key, value) :: members =>
    if key = "query" then Query.ofJsonAt? place value else queryUnder? place members

/-- The clauses under the key `wheres`, if it is there. -/
def clausesUnder? (place : Json.Place) : List (String × Json) → Option (Option (List Clause))
  | [] => none
  | (key, value) :: members =>
    if key = "wheres" then some (clauses? place value) else clausesUnder? place members

def clauses? (place : Json.Place) : Json → Option (List Clause)
  | .array items => clausesOf? place items
  | _ => none

def clausesOf? (place : Json.Place) : List Json → Option (List Clause)
  | [] => some []
  | item :: items => do return (← Clause.ofJsonAt? place item) :: (← clausesOf? place items)

def Clause.ofJsonAt? (place : Json.Place) : Json → Option Clause
  | .object members => do
    let connective ← defaulted? members "boolean" (Connective.ofJsonAt? place) .and
    let predicate ← Predicate.ofMembers? members (queryUnder? .tagged members)
      ((clausesUnder? .tagged members).getD none)
    return ⟨connective, predicate⟩
  | _ => none

/-- The joins under the key `joins`; none of them if it is missing. -/
def joinsUnder? (place : Json.Place) : List (String × Json) → Option (List Join)
  | [] => some []
  | (key, value) :: members =>
    if key = "joins" then joins? place value else joinsUnder? place members

def joins? (place : Json.Place) : Json → Option (List Join)
  | .array items => joinsOf? place items
  | _ => none

def joinsOf? (place : Json.Place) : List Json → Option (List Join)
  | [] => some []
  | item :: items => do return (← Join.ofJsonAt? place item) :: (← joinsOf? place items)

def Join.ofJsonAt? (place : Json.Place) : Json → Option Join
  | .object members => do
    let kind ← defaulted? members "kind" (JoinKind.ofJsonAt? place) .inner
    let table ← required? members "table" Ident.ofJson?
    return ⟨kind, table, ← (clausesUnder? place members).getD (some [])⟩
  | _ => none

/-- The united queries under the key `unions`; none of them if it is missing. -/
def unitedUnder? (place : Json.Place) : List (String × Json) → Option (List Member)
  | [] => some []
  | (key, value) :: members =>
    if key = "unions" then united? place value else unitedUnder? place members

def united? (place : Json.Place) : Json → Option (List Member)
  | .array items => unitedOf? place items
  | _ => none

def unitedOf? (place : Json.Place) : List Json → Option (List Member)
  | [] => some []
  | item :: items => do return (← Member.ofJsonAt? place item) :: (← unitedOf? place items)

def Member.ofJsonAt? (place : Json.Place) : Json → Option Member
  | .object members => do
    let query ← queryUnder? place members
    return ⟨query, ← defaulted? members "all" Json.bool? false⟩
  | _ => none
end

def Query.ofJson? (j : Json) : Option Query := Query.ofJsonAt? .plain j

/-- A predicate alone, without a connective; its tag is a word. -/
def Predicate.ofJson? (j : Json) : Option Predicate := do
  let members ← j.members?
  let _ ← required? members "type" Json.string?
  Predicate.ofMembers? members (queryUnder? .tagged members)
    ((clausesUnder? .tagged members).getD none)

end SqlCompose
