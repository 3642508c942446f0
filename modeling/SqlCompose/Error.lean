/-!
# Causes of failure

Why a statement cannot be written, and the message for each cause.
-/
namespace SqlCompose

/-- The statements that need a table or rows. -/
inductive Statement where
  | insert
  | upsert
  | update
  | delete
  | truncate
  deriving DecidableEq, Repr

def Statement.keyword : Statement → String
  | .insert => "insert"
  | .upsert => "upsert"
  | .update => "update"
  | .delete => "delete"
  | .truncate => "truncate"

/-- The statements that a dialect may lack. -/
inductive Feature where
  | insertOrIgnore
  | upsert
  deriving DecidableEq, Repr

def Feature.description : Feature → String
  | .insertOrIgnore => "insert or ignore"
  | .upsert => "upsert"

/-- The settings that are spelled into a statement. -/
inductive Setting where
  | charset
  | collation
  | engine
  | default
  deriving DecidableEq, Repr

def Setting.word : Setting → String
  | .charset => "charset"
  | .collation => "collation"
  | .engine => "engine"
  | .default => "default"

inductive CompileError where
  /-- The operator, as given, is not one of the dialect's. -/
  | invalidOperator (dialect operator : String)
  | unsupported (dialect : String) (feature : Feature)
  | missingTable (statement : Statement)
  | missingRows (statement : Statement)
  /-- The column is to be renamed, and its definition is needed for that. -/
  | missingDefinition (column : String)
  | invalidSetting (setting : Setting) (value : String)
  | unknownDialect (name : String)
  deriving DecidableEq, Repr

def CompileError.message : CompileError → String
  | .invalidOperator dialect operator => "Invalid operator for " ++ dialect ++ ": " ++ operator
  | .unsupported dialect feature => feature.description ++ " is not supported by " ++ dialect
  | .missingTable statement => "Missing table for " ++ statement.keyword ++ " statement"
  | .missingRows statement => "No rows given for " ++ statement.keyword ++ " statement"
  | .missingDefinition column => "Missing column definition for: " ++ column
  | .invalidSetting setting value => "Invalid " ++ setting.word ++ ": " ++ value
  | .unknownDialect name => "Unknown dialect: " ++ name

end SqlCompose
