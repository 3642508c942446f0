import SqlCompose.Dialect.MySql
import SqlCompose.Dialect.Postgres
import SqlCompose.Json.Document
import SqlCompose.Json.Fields
import SqlCompose.Schema.Dialect

/-!
# Configuration

Which database statements are written for, the prefix of its tables, and the options of the tables
it creates. Unknown members are passed over; in a text a known member may not be repeated.
-/
namespace SqlCompose

namespace Database

def word : Database → String
  | .mySql => "mysql"
  | .postgres => "postgres"

/-- A database by any of its names, in any case and with blanks around it. -/
def ofText (s : String) : Except CompileError Database :=
  let name := Text.lowercase (Text.trim s)
  if name ∈ ["mysql", "mariadb"] then .ok .mySql
  else if name ∈ ["pg", "pgsql", "postgres", "postgresql"] then .ok .postgres
  else .error (.unknownDialect name)

def ofJson? (j : Json) : Option Database := do (ofText (← j.string?)).toOption

end Database

structure Config where
  database : Database := .mySql
  tablePrefix : String := ""
  options : TableOptions := {}
  deriving DecidableEq, Repr

namespace Config

def queryDialect (c : Config) : QueryDialect :=
  match c.database with
  | .mySql => .mySql c.tablePrefix
  | .postgres => .postgres c.tablePrefix

def schemaDialect (c : Config) : SchemaDialect := ⟨c.database, c.tablePrefix, c.options⟩

def toJson (c : Config) : Json :=
  .object [
    ("charset", Json.ofOptionString c.options.charset),
    ("collation", Json.ofOptionString c.options.collation),
    ("dialect", .string c.database.word),
    ("engine", Json.ofOptionString c.options.engine),
    ("table_prefix", .string c.tablePrefix)]

open Json.Members

def ofMembers? (members : Json.Members) : Option Config := do
  return {
    database := ← defaulted? members "dialect" Database.ofJson? .mySql
    tablePrefix := ← defaulted? members "table_prefix" Json.string? ""
    options := {
      charset := ← optional? members "charset" Json.string?
      collation := ← optional? members "collation" Json.string?
      engine := ← optional? members "engine" Json.string? } }

def ofJson? (j : Json) : Option Config := do ofMembers? (← j.members?)

def memberNames : List String := ["dialect", "table_prefix", "charset", "collation", "engine"]

/-- The known members of a document; the values of the others need not be readable. -/
def knownMembers? : List (Option String × Json.Document) → Option Json.Members
  | [] => some []
  | (key, value) :: rest => do
    let key ← key
    let members ← knownMembers? rest
    if key ∈ memberNames then
      if (List.lookup key members).isSome then none
      else return (key, ← Json.ofDocument? value) :: members
    else return members

/-- The configuration that a JSON text holds. -/
def ofText? (s : String) : Option Config := do
  match ← Json.Document.ofText? s with
  | .object members => ofMembers? (← knownMembers? members)
  | _ => none

end Config
end SqlCompose
