import SqlCompose.Blueprint.Basic
import SqlCompose.Schema.Column

/-!
# Schema statements

The statements that carry out a blueprint: its commands in order, after them the keys that its
columns ask for. Columns of a table that is not created are added to it first.
-/
namespace SqlCompose

/-- A keyword in front of each text. -/
def prefixEach (keyword : String) (texts : List String) : List String :=
  texts.map fun s => keyword ++ " " ++ s

namespace SchemaDialect

variable (d : SchemaDialect)

def table (b : Blueprint) : String := d.quoter.tableName b.table

/-- A change of the blueprint's table. -/
def alter (b : Blueprint) (change : String) : String := "alter table " ++ d.table b ++ " " ++ change

/-- The given name of a key, or the conventional one. -/
def keyName (b : Blueprint) (kind : IndexKind) (name : Option String) (columns : List String) :
    String :=
  name.getD (b.indexName d.tablePrefix kind columns)

/-- The options of a table that is created: its own, or else the configured ones. -/
def createOptions (b : Blueprint) : Except CompileError String :=
  match d.database with
  | .postgres => .ok ""
  | .mySql => do
    let charset ← wordText "default character set " .charset (b.charset.or d.options.charset)
    let collation ← wordText "collate " .collation (b.collation.or d.options.collation)
    let engine ← wordText "engine = " .engine (b.engine.or d.options.engine)
    return Text.joinWith " " ([charset, collation, engine].filter (· ≠ ""))

/-- The comment of a column as a statement of its own. -/
def commentText (b : Blueprint) (column : Column) (comment : String) : String :=
  "comment on column " ++ d.table b ++ "." ++ d.quoter.part column.name ++ " is " ++
    d.literal comment

/-- The statements for comments that cannot stand in a column's definition. -/
def comments (b : Blueprint) : List String :=
  match d.database with
  | .mySql => []
  | .postgres => b.columns.filterMap fun column => column.comment.map (d.commentText b column)

def create (b : Blueprint) (ifNotExists : Bool) : Except CompileError (List String) := do
  let columns ← d.columnTexts b.columns
  let options ← d.createOptions b
  let sql := "create " ++ (if b.temporary then "temporary " else "") ++ "table "
    ++ (if ifNotExists then "if not exists " else "") ++ d.table b
    ++ " (" ++ Text.joinWith ", " columns ++ ")"
    ++ (if options = "" then "" else " " ++ options)
  return sql :: d.comments b

def add (b : Blueprint) : Except CompileError (List String) :=
  match b.columns with
  | [] => .ok []
  | columns => do
    let columns ← d.columnTexts columns
    return d.alter b (Text.joinWith ", " (prefixEach d.addKeyword columns)) :: d.comments b

def dropColumns (b : Blueprint) : List String → List String
  | [] => []
  | columns =>
    let names := columns.map d.quoter.columnName
    [d.alter b (Text.joinWith ", " (prefixEach d.dropKeyword names))]

def renameTable (b : Blueprint) (table : String) : String :=
  match d.database with
  | .mySql => "rename table " ++ d.table b ++ " to " ++ d.quoter.tableName table
  | .postgres => d.alter b ("rename to " ++ d.quoter.tableName table)

/-- MySQL restates the whole column, so its definition is needed. -/
def renameColumn (b : Blueprint) (old new : String) (definition : Option Column) :
    Except CompileError String :=
  match d.database with
  | .mySql =>
    match definition with
    | none => .error (.missingDefinition old)
    | some column => do
      let column ← d.columnText { column with name := new }
      return d.alter b ("change " ++ d.quoter.part old ++ " " ++ column)
  | .postgres =>
    .ok (d.alter b ("rename column " ++ d.quoter.part old ++ " to " ++ d.quoter.part new))

/-- A key over columns of the table. -/
def addKey (b : Blueprint) (clause : String) (columns : List String) : String :=
  d.alter b ("add " ++ clause ++ " (" ++ d.quoter.columnNames columns ++ ")")

def addPrimary (b : Blueprint) (columns : List String) : String := d.addKey b "primary key" columns

def addUnique (b : Blueprint) (name : Option String) (columns : List String) : String :=
  let name := d.quoter.part (d.keyName b .unique name columns)
  match d.database with
  | .mySql => d.addKey b ("unique " ++ name) columns
  | .postgres => d.addKey b ("constraint " ++ name ++ " unique") columns

def addIndex (b : Blueprint) (name : Option String) (columns : List String) : String :=
  let name := d.quoter.part (d.keyName b .index name columns)
  match d.database with
  | .mySql => d.addKey b ("index " ++ name) columns
  | .postgres =>
    "create index " ++ name ++ " on " ++ d.table b ++ " (" ++ d.quoter.columnNames columns ++ ")"

def actionText (event : String) : Option ReferentialAction → String
  | some action => " on " ++ event ++ " " ++ action.keyword
  | none => ""

def addForeign (b : Blueprint) (key : ForeignKey) : String :=
  d.alter b ("add constraint " ++ d.quoter.part (d.keyName b .foreign key.name key.columns)
    ++ " foreign key (" ++ d.quoter.columnNames key.columns ++ ") references "
    ++ d.quoter.tableName key.table ++ " (" ++ d.quoter.columnNames key.references ++ ")"
    ++ actionText "delete" key.onDelete ++ actionText "update" key.onUpdate)

def dropConstraint (b : Blueprint) (quotedName : String) : String :=
  d.alter b ("drop constraint " ++ quotedName)

/-- PostgreSQL names an unnamed primary key after the table. -/
def dropPrimary (b : Blueprint) (name : Option String) : String :=
  match d.database with
  | .mySql => d.alter b "drop primary key"
  | .postgres =>
    match name with
    | some name => d.dropConstraint b (d.quoter.part name)
    | none => d.dropConstraint b (d.quoter.tableName (b.table ++ "_pkey"))

def dropUnique (b : Blueprint) (name : String) : String :=
  match d.database with
  | .mySql => d.alter b ("drop index " ++ d.quoter.part name)
  | .postgres => d.dropConstraint b (d.quoter.part name)

def dropIndex (b : Blueprint) (name : String) : String :=
  match d.database with
  | .mySql => d.alter b ("drop index " ++ d.quoter.part name)
  | .postgres => "drop index " ++ d.quoter.part name

def dropForeign (b : Blueprint) (name : String) : String :=
  match d.database with
  | .mySql => d.alter b ("drop foreign key " ++ d.quoter.part name)
  | .postgres => d.dropConstraint b (d.quoter.part name)

/-- The statements of one command. -/
def command (b : Blueprint) : Command → Except CompileError (List String)
  | .create ifNotExists => d.create b ifNotExists
  | .add => d.add b
  | .drop => .ok ["drop table " ++ d.table b]
  | .dropIfExists => .ok ["drop table if exists " ++ d.table b]
  | .rename table => .ok [d.renameTable b table]
  | .dropColumn columns => .ok (d.dropColumns b columns)
  | .renameColumn old new definition => do return [← d.renameColumn b old new definition]
  | .primary _ columns => .ok [d.addPrimary b columns]
  | .unique name columns => .ok [d.addUnique b name columns]
  | .index name columns => .ok [d.addIndex b name columns]
  | .foreign key => .ok [d.addForeign b key]
  | .dropPrimary name => .ok [d.dropPrimary b name]
  | .dropUnique name => .ok [d.dropUnique b name]
  | .dropIndex name => .ok [d.dropIndex b name]
  | .dropForeign name => .ok [d.dropForeign b name]

def commands (b : Blueprint) : List Command → Except CompileError (List String)
  | [] => .ok []
  | c :: cs => do
    let statements ← d.command b c
    return statements ++ (← commands b cs)

/-- The commands that a blueprint stands for. -/
def allCommands (b : Blueprint) : List Command :=
  (if b.columns.isEmpty || b.creating then [] else [.add]) ++ b.commands ++ b.fluentIndexes

/-- The statements of a blueprint. -/
def statements (b : Blueprint) : Except CompileError (List String) :=
  d.commands b (allCommands b)

end SchemaDialect
end SqlCompose
