import SqlCompose.Blueprint.Basic
import SqlCompose.Json.Fields

/-!
# JSON form of blueprints

The attributes of a column's type stand beside the column's own fields, under a tag for the type;
a command has its tag under `name`.
-/
namespace SqlCompose

open Json.Members

namespace ColumnType

def tags : List String :=
  ["char", "string", "text", "medium_text", "long_text", "integer", "big_integer",
    "medium_integer", "small_integer", "tiny_integer", "float", "double", "decimal", "boolean",
    "enum", "json", "jsonb", "date", "date_time", "date_time_tz", "time", "time_tz", "timestamp",
    "timestamp_tz", "year", "binary", "uuid", "ip_address", "mac_address"]

def tag : ColumnType → String
  | .char _ => "char"
  | .string _ => "string"
  | .text => "text"
  | .mediumText => "medium_text"
  | .longText => "long_text"
  | .integer => "integer"
  | .bigInteger => "big_integer"
  | .mediumInteger => "medium_integer"
  | .smallInteger => "small_integer"
  | .tinyInteger => "tiny_integer"
  | .float _ _ => "float"
  | .double _ _ => "double"
  | .decimal _ _ => "decimal"
  | .bool => "boolean"
  | .enumeration _ => "enum"
  | .json => "json"
  | .jsonb => "jsonb"
  | .date => "date"
  | .dateTime _ => "date_time"
  | .dateTimeTz _ => "date_time_tz"
  | .time _ => "time"
  | .timeTz _ => "time_tz"
  | .timestamp _ => "timestamp"
  | .timestampTz _ => "timestamp_tz"
  | .year => "year"
  | .binary => "binary"
  | .uuid => "uuid"
  | .ipAddress => "ip_address"
  | .macAddress => "mac_address"

/-- The attributes of a type. -/
def attributes : ColumnType → List (String × Json)
  | .char length | .string length => [("length", Json.ofUInt32 length)]
  | .float total places | .double total places =>
    [("total", Json.ofOptionUInt32 total), ("places", Json.ofOptionUInt32 places)]
  | .decimal total places => [("total", Json.ofUInt32 total), ("places", Json.ofUInt32 places)]
  | .enumeration allowed => [("allowed", Json.ofStrings allowed)]
  | .dateTime precision | .dateTimeTz precision | .time precision | .timeTz precision
  | .timestamp precision | .timestampTz precision => [("precision", Json.ofOptionUInt32 precision)]
  | _ => []

def members (t : ColumnType) : List (String × Json) := ("type", .string t.tag) :: t.attributes

def ofMembers? (members : Json.Members) : Option ColumnType := do
  let length? := required? members "length" Json.uint32?
  let precision? := optional? members "precision" Json.uint32?
  match ← required? members "type" (Json.tag? tags) with
  | "char" => return .char (← length?)
  | "string" => return .string (← length?)
  | "text" => return .text
  | "medium_text" => return .mediumText
  | "long_text" => return .longText
  | "integer" => return .integer
  | "big_integer" => return .bigInteger
  | "medium_integer" => return .mediumInteger
  | "small_integer" => return .smallInteger
  | "tiny_integer" => return .tinyInteger
  | "float" =>
    return .float (← optional? members "total" Json.uint32?)
      (← optional? members "places" Json.uint32?)
  | "double" =>
    return .double (← optional? members "total" Json.uint32?)
      (← optional? members "places" Json.uint32?)
  | "decimal" =>
    return .decimal (← required? members "total" Json.uint32?)
      (← required? members "places" Json.uint32?)
  | "boolean" => return .bool
  | "enum" => return .enumeration (← required? members "allowed" (Json.list? Json.string?))
  | "json" => return .json
  | "jsonb" => return .jsonb
  | "date" => return .date
  | "date_time" => return .dateTime (← precision?)
  | "date_time_tz" => return .dateTimeTz (← precision?)
  | "time" => return .time (← precision?)
  | "time_tz" => return .timeTz (← precision?)
  | "timestamp" => return .timestamp (← precision?)
  | "timestamp_tz" => return .timestampTz (← precision?)
  | "year" => return .year
  | "binary" => return .binary
  | "uuid" => return .uuid
  | "ip_address" => return .ipAddress
  | "mac_address" => return .macAddress
  | _ => none

/-- A type alone; its tag is a word. -/
def ofJson? (j : Json) : Option ColumnType := do
  let members ← j.members?
  let _ ← required? members "type" Json.string?
  ofMembers? members

end ColumnType

namespace Column

def toJson (c : Column) : Json :=
  .object (c.type.members ++ [
    ("after", Json.ofOptionString c.after),
    ("auto_increment", .bool c.autoIncrement),
    ("charset", Json.ofOptionString c.charset),
    ("collation", Json.ofOptionString c.collation),
    ("comment", Json.ofOptionString c.comment),
    ("default", Json.ofOption Operand.toJson c.default),
    ("first", .bool c.first),
    ("index", .bool c.index),
    ("name", .string c.name),
    ("nullable", .bool c.nullable),
    ("primary", .bool c.primary),
    ("unique", .bool c.unique),
    ("unsigned", .bool c.unsigned),
    ("use_current", .bool c.useCurrent)])

def ofJson? (j : Json) : Option Column := do
  let members ← j.members?
  let flag? := fun key => defaulted? members key Json.bool? false
  let text? := fun key => optional? members key Json.string?
  return {
    name := ← required? members "name" Json.string?
    type := ← ColumnType.ofMembers? members
    nullable := ← flag? "nullable"
    default := ← optional? members "default" Operand.ofJson?
    autoIncrement := ← flag? "auto_increment"
    unsigned := ← flag? "unsigned"
    charset := ← text? "charset"
    collation := ← text? "collation"
    comment := ← text? "comment"
    after := ← text? "after"
    first := ← flag? "first"
    useCurrent := ← flag? "use_current"
    primary := ← flag? "primary"
    unique := ← flag? "unique"
    index := ← flag? "index" }

end Column

def ReferentialAction.word : ReferentialAction → String
  | .cascade => "cascade"
  | .restrict => "restrict"
  | .setNull => "set_null"
  | .setDefault => "set_default"
  | .noAction => "no_action"

def ReferentialAction.toJson (a : ReferentialAction) : Json := .string a.word

/-- An action, which stands beneath the tag of its command. -/
def ReferentialAction.ofJson? : Json → Option ReferentialAction :=
  Json.oneOf? [("cascade", .cascade), ("restrict", .restrict), ("set_null", .setNull),
    ("set_default", .setDefault), ("no_action", .noAction)] .tagged

namespace Command

/-- The name of an index and its columns. -/
def indexMembers (tag : String) (name : Option String) (columns : List String) : Json :=
  .object [("columns", Json.ofStrings columns), ("index", Json.ofOptionString name),
    ("name", .string tag)]

/-- The name of an index that is dropped. -/
def dropMembers (tag : String) (name : Json) : Json :=
  .object [("index", name), ("name", .string tag)]

def toJson : Command → Json
  | .create ifNotExists =>
    .object [("if_not_exists", .bool ifNotExists), ("name", .string "create")]
  | .add => .object [("name", .string "add")]
  | .drop => .object [("name", .string "drop")]
  | .dropIfExists => .object [("name", .string "drop_if_exists")]
  | .rename table => .object [("name", .string "rename"), ("to", .string table)]
  | .dropColumn columns =>
    .object [("columns", Json.ofStrings columns), ("name", .string "drop_column")]
  | .renameColumn old new definition =>
    .object [("definition", Json.ofOption Column.toJson definition), ("from", .string old),
      ("name", .string "rename_column"), ("to", .string new)]
  | .primary name columns => indexMembers "primary" name columns
  | .unique name columns => indexMembers "unique" name columns
  | .index name columns => indexMembers "index" name columns
  | .foreign key =>
    .object [("columns", Json.ofStrings key.columns), ("index", Json.ofOptionString key.name),
      ("name", .string "foreign"), ("on", .string key.table),
      ("on_delete", Json.ofOption ReferentialAction.toJson key.onDelete),
      ("on_update", Json.ofOption ReferentialAction.toJson key.onUpdate),
      ("references", Json.ofStrings key.references)]
  | .dropPrimary name => dropMembers "drop_primary" (Json.ofOptionString name)
  | .dropUnique name => dropMembers "drop_unique" (.string name)
  | .dropIndex name => dropMembers "drop_index" (.string name)
  | .dropForeign name => dropMembers "drop_foreign" (.string name)

def ofJson? (j : Json) : Option Command := do
  let members ← j.members?
  let text? := fun key => required? members key Json.string?
  let texts? := fun key => required? members key (Json.list? Json.string?)
  let index? := optional? members "index" Json.string?
  match ← text? "name" with
  | "create" => return .create (← defaulted? members "if_not_exists" Json.bool? false)
  | "add" => return .add
  | "drop" => return .drop
  | "drop_if_exists" => return .dropIfExists
  | "rename" => return .rename (← text? "to")
  | "drop_column" => return .dropColumn (← texts? "columns")
  | "rename_column" =>
    return .renameColumn (← text? "from") (← text? "to")
      (← optional? members "definition" Column.ofJson?)
  | "primary" => return .primary (← index?) (← texts? "columns")
  | "unique" => return .unique (← index?) (← texts? "columns")
  | "index" => return .index (← index?) (← texts? "columns")
  | "foreign" =>
    return .foreign {
      name := ← index?
      columns := ← texts? "columns"
      table := ← text? "on"
      references := ← texts? "references"
      onDelete := ← optional? members "on_delete" ReferentialAction.ofJson?
      onUpdate := ← optional? members "on_update" ReferentialAction.ofJson? }
  | "drop_primary" => return .dropPrimary (← index?)
  | "drop_unique" => return .dropUnique (← text? "index")
  | "drop_index" => return .dropIndex (← text? "index")
  | "drop_foreign" => return .dropForeign (← text? "index")
  | _ => none

end Command

namespace Blueprint

def toJson (b : Blueprint) : Json :=
  .object [
    ("charset", Json.ofOptionString b.charset),
    ("collation", Json.ofOptionString b.collation),
    ("columns", .array (b.columns.map Column.toJson)),
    ("commands", .array (b.commands.map Command.toJson)),
    ("engine", Json.ofOptionString b.engine),
    ("table", .string b.table),
    ("temporary", .bool b.temporary)]

def ofJson? (j : Json) : Option Blueprint := do
  let members ← j.members?
  return {
    table := ← defaulted? members "table" Json.string? ""
    columns := ← defaulted? members "columns" (Json.list? Column.ofJson?) []
    commands := ← defaulted? members "commands" (Json.list? Command.ofJson?) []
    charset := ← optional? members "charset" Json.string?
    collation := ← optional? members "collation" Json.string?
    engine := ← optional? members "engine" Json.string?
    temporary := ← defaulted? members "temporary" Json.bool? false }

end Blueprint
end SqlCompose
