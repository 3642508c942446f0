import SqlCompose.Fragment
import SqlCompose.Schema.Dialect

/-! # Questions about tables that exist -/
namespace SqlCompose.SchemaDialect

variable (d : SchemaDialect)

/-- The schema, and the table with its prefix. -/
def tableBindings (schema table : String) : List Value :=
  [.string schema, .string (d.tablePrefix ++ table)]

def tableExists (schema table : String) : Fragment :=
  ⟨"select * from information_schema.tables where table_schema = ? and table_name = ? "
    ++ "and table_type = 'BASE TABLE'", d.tableBindings schema table⟩

/-- MySQL answers in upper case, so the column is given its name. -/
def columnListing (schema table : String) : Fragment :=
  let column := match d.database with
    | .mySql => "column_name as `column_name`"
    | .postgres => "column_name"
  ⟨"select " ++ column ++
      " from information_schema.columns where table_schema = ? and table_name = ?",
    d.tableBindings schema table⟩

end SqlCompose.SchemaDialect
