import SqlCompose.Error
import SqlCompose.Quoter

/-!
# Schema dialects

The dialects that tables are described in: their quoting, their literals and the few keywords they
disagree on. One of them has options that a table is created with when it does not bring its own.
-/
namespace SqlCompose

/-- The databases that statements are written for. -/
inductive Database where
  | mySql
  | postgres
  deriving DecidableEq, Repr

def Database.title : Database → String
  | .mySql => "MySQL"
  | .postgres => "PostgreSQL"

structure TableOptions where
  charset : Option String := none
  collation : Option String := none
  engine : Option String := none
  deriving DecidableEq, Repr

structure SchemaDialect where
  database : Database
  tablePrefix : String
  /-- Used by MySQL only. -/
  options : TableOptions := {}
  deriving DecidableEq, Repr

/-- Additions to a column's type. -/
inductive Modifier where
  | unsigned
  | charset
  | collate
  | nullable
  | default
  | increment
  | comment
  | after
  | first
  deriving DecidableEq, Repr

/-- A word of ASCII letters, digits and underscores, which needs no quotes. -/
def bareWord (setting : Setting) (s : String) : Except CompileError String :=
  if s ≠ "" ∧ s.toList.all fun c => c.isAlphanum || c == '_' then .ok s
  else .error (.invalidSetting setting s)

namespace SchemaDialect

variable (d : SchemaDialect)

def quoter : Quoter :=
  match d.database with
  | .mySql => ⟨'\x60', d.tablePrefix⟩
  | .postgres => ⟨'"', d.tablePrefix⟩

/-- The modifiers in the order in which they follow the type. -/
def modifiers : List Modifier :=
  match d.database with
  | .mySql =>
    [.unsigned, .charset, .collate, .nullable, .default, .increment, .comment, .after, .first]
  | .postgres => [.collate, .increment, .nullable, .default]

/-- A string literal. -/
def literal (s : String) : String :=
  match d.database with
  | .mySql => Text.backslashLiteral s
  | .postgres => Text.literal s

def boolLiteral (b : Bool) : String :=
  match d.database with
  | .mySql => if b then "1" else "0"
  | .postgres => if b then "true" else "false"

def addKeyword : String :=
  match d.database with
  | .mySql => "add"
  | .postgres => "add column"

def dropKeyword : String :=
  match d.database with
  | .mySql => "drop"
  | .postgres => "drop column"

/-- Turns the checks of foreign keys on. -/
def enableForeignKeys : String :=
  match d.database with
  | .mySql => "set foreign_key_checks=1"
  | .postgres => "set constraints all immediate"

/-- Turns the checks of foreign keys off. -/
def disableForeignKeys : String :=
  match d.database with
  | .mySql => "set foreign_key_checks=0"
  | .postgres => "set constraints all deferred"

end SchemaDialect
end SqlCompose
