import SqlCompose.Blueprint.Column
import SqlCompose.Schema.Dialect

/-!
# Column definitions

A column is its quoted name, its type and its modifiers. A default is a string literal, except for
truth values, null and trusted expressions; bytes have no literal.
-/
namespace SqlCompose

/-- Total digits and places in parentheses; places count only beside a total. -/
def precisionPair (total places : Option UInt32) : String :=
  match total, places with
  | some total, some places =>
    "(" ++ toString total.toNat ++ ", " ++ toString places.toNat ++ ")"
  | some total, none => "(" ++ toString total.toNat ++ ")"
  | none, _ => ""

def precisionText : Option UInt32 → String
  | some n => "(" ++ toString n.toNat ++ ")"
  | none => ""

/-- A temporal type with or without a time zone. -/
def zonedText (base : String) (precision : Option UInt32) (zone : String) : String :=
  base ++ precisionText precision ++ " " ++ zone ++ " time zone"

namespace SchemaDialect

variable (d : SchemaDialect)

/-- The literals of the allowed values. -/
def allowedTexts (allowed : List String) : String :=
  Text.joinWith ", " (allowed.map d.literal)

def sizedText (base : String) (length : UInt32) : String :=
  base ++ "(" ++ toString length.toNat ++ ")"

def decimalText (total places : UInt32) : String :=
  "decimal(" ++ toString total.toNat ++ ", " ++ toString places.toNat ++ ")"

def mySqlType : ColumnType → String
  | .char length => sizedText "char" length
  | .string length => sizedText "varchar" length
  | .text => "text"
  | .mediumText => "mediumtext"
  | .longText => "longtext"
  | .integer => "int"
  | .bigInteger => "bigint"
  | .mediumInteger => "mediumint"
  | .smallInteger => "smallint"
  | .tinyInteger => "tinyint"
  | .float total places => "float" ++ precisionPair total places
  | .double total places => "double" ++ precisionPair total places
  | .decimal total places => decimalText total places
  | .bool => "tinyint(1)"
  | .enumeration allowed => "enum(" ++ d.allowedTexts allowed ++ ")"
  | .json | .jsonb => "json"
  | .date => "date"
  | .dateTime precision | .dateTimeTz precision => "datetime" ++ precisionText precision
  | .time precision | .timeTz precision => "time" ++ precisionText precision
  | .timestamp precision | .timestampTz precision => "timestamp" ++ precisionText precision
  | .year => "year"
  | .binary => "blob"
  | .uuid => "char(36)"
  | .ipAddress => "varchar(45)"
  | .macAddress => "varchar(17)"

/-- A column that counts up is of a serial type; an enumeration is checked against the column. -/
def postgresType (column : Column) : String :=
  let serial := column.autoIncrement
  match column.type with
  | .char length => sizedText "char" length
  | .string length => sizedText "varchar" length
  | .text | .mediumText | .longText => "text"
  | .integer | .mediumInteger => if serial then "serial" else "integer"
  | .bigInteger => if serial then "bigserial" else "bigint"
  | .smallInteger | .tinyInteger => if serial then "smallserial" else "smallint"
  | .float _ _ => "real"
  | .double _ _ => "double precision"
  | .decimal total places => decimalText total places
  | .bool => "boolean"
  | .enumeration allowed =>
    "varchar(255) check (" ++ d.quoter.part column.name ++ " in (" ++ d.allowedTexts allowed ++ "))"
  | .json => "json"
  | .jsonb => "jsonb"
  | .date => "date"
  | .dateTime precision | .timestamp precision => zonedText "timestamp" precision "without"
  | .dateTimeTz precision | .timestampTz precision => zonedText "timestamp" precision "with"
  | .time precision => zonedText "time" precision "without"
  | .timeTz precision => zonedText "time" precision "with"
  | .year => "integer"
  | .binary => "bytea"
  | .uuid => "uuid"
  | .ipAddress => "inet"
  | .macAddress => "macaddr"

def typeText (column : Column) : String :=
  match d.database with
  | .mySql => d.mySqlType column.type
  | .postgres => d.postgresType column

/-- The text of a default. -/
def defaultText : Operand → Except CompileError String
  | .raw sql => .ok sql.text
  | .value (.bool b) => .ok (d.boolLiteral b)
  | .value .null => .ok "null"
  | .value v =>
    match v.text? with
    | some s => .ok (d.literal s)
    | none => .error (.invalidSetting .default v.display)

def nullableText (column : Column) : String := if column.nullable then " null" else " not null"

/-- The current time takes the place of any other default of a timestamp. -/
def defaultModifier (column : Column) : Except CompileError String :=
  if column.useCurrent ∧ column.type.isTimestamp then .ok " default CURRENT_TIMESTAMP"
  else match column.default with
    | some operand => do return " default " ++ (← d.defaultText operand)
    | none => .ok ""

/-- Whether a column counts up by itself. -/
def increments (column : Column) : Bool := column.autoIncrement && column.type.isInteger

/-- A modifier followed by the text of an optional part. -/
def partText (keyword : String) (part : Option String) (write : String → String) : String :=
  match part with
  | some s => keyword ++ write s
  | none => ""

/-- A modifier followed by an optional bare word. -/
def wordText (keyword : String) (setting : Setting) :
    Option String → Except CompileError String
  | some s => do return keyword ++ (← bareWord setting s)
  | none => .ok ""

def mySqlModifier (column : Column) : Modifier → Except CompileError String
  | .unsigned => .ok (if column.unsigned && column.type.isNumeric then " unsigned" else "")
  | .charset => wordText " character set " .charset column.charset
  | .collate => wordText " collate " .collation column.collation
  | .nullable => .ok (nullableText column)
  | .default => d.defaultModifier column
  | .increment => .ok (if increments column then " auto_increment primary key" else "")
  | .comment => .ok (partText " comment " column.comment d.literal)
  | .after => .ok (partText " after " column.after d.quoter.part)
  | .first => .ok (if column.first then " first" else "")

def postgresModifier (column : Column) : Modifier → Except CompileError String
  | .collate => .ok (partText " collate " column.collation d.quoter.part)
  | .increment => .ok (if increments column then " primary key" else "")
  | .nullable => .ok (nullableText column)
  | .default => d.defaultModifier column
  | .unsigned | .charset | .comment | .after | .first => .ok ""

/-- A modifier of a column; empty if it does not apply. -/
def modifierText (column : Column) (m : Modifier) : Except CompileError String :=
  match d.database with
  | .mySql => d.mySqlModifier column m
  | .postgres => d.postgresModifier column m

def modifierTexts (column : Column) : List Modifier → Except CompileError String
  | [] => .ok ""
  | m :: ms => do
    let text ← d.modifierText column m
    return text ++ (← modifierTexts column ms)

def columnText (column : Column) : Except CompileError String := do
  let modifiers ← d.modifierTexts column d.modifiers
  return d.quoter.part column.name ++ " " ++ d.typeText column ++ modifiers

def columnTexts : List Column → Except CompileError (List String)
  | [] => .ok []
  | column :: columns => do
    let text ← d.columnText column
    return text :: (← columnTexts columns)

end SchemaDialect
end SqlCompose
