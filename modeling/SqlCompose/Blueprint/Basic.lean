import SqlCompose.Blueprint.Column
import SqlCompose.Text.Lowercase
import SqlCompose.Text.Split

/-!
# Blueprints

What is to be done to a table: its columns and the commands to run on it, in order. A key that is
not given a name has a conventional one.
-/
namespace SqlCompose

/-- What happens to a row when the row it refers to changes. -/
inductive ReferentialAction where
  | cascade
  | restrict
  | setNull
  | setDefault
  | noAction
  deriving DecidableEq, Repr

def ReferentialAction.keyword : ReferentialAction → String
  | .cascade => "cascade"
  | .restrict => "restrict"
  | .setNull => "set null"
  | .setDefault => "set default"
  | .noAction => "no action"

inductive IndexKind where
  | primary
  | unique
  | index
  | foreign
  deriving DecidableEq, Repr

def IndexKind.keyword : IndexKind → String
  | .primary => "primary"
  | .unique => "unique"
  | .index => "index"
  | .foreign => "foreign"

/-- Columns that refer to columns of another table. -/
structure ForeignKey where
  name : Option String
  columns : List String
  table : String
  references : List String
  onDelete : Option ReferentialAction
  onUpdate : Option ReferentialAction
  deriving DecidableEq, Repr

inductive Command where
  | create (ifNotExists : Bool)
  /-- Adds every column of the blueprint. -/
  | add
  | drop
  | dropIfExists
  | rename (table : String)
  | dropColumn (columns : List String)
  | renameColumn (old new : String) (definition : Option Column)
  | primary (name : Option String) (columns : List String)
  | unique (name : Option String) (columns : List String)
  | index (name : Option String) (columns : List String)
  | foreign (key : ForeignKey)
  | dropPrimary (name : Option String)
  | dropUnique (name : String)
  | dropIndex (name : String)
  | dropForeign (name : String)

def Command.isCreate : Command → Bool
  | .create _ => true
  | _ => false

structure Blueprint where
  table : String := ""
  columns : List Column := []
  commands : List Command := []
  charset : Option String := none
  collation : Option String := none
  engine : Option String := none
  temporary : Bool := false

namespace Blueprint

def creating (b : Blueprint) : Bool := b.commands.any Command.isCreate

/-- The keys that a column's flags ask for. -/
def columnIndexes (c : Column) : List Command :=
  (if c.primary then [.primary none [c.name]] else [])
    ++ (if c.unique then [.unique none [c.name]] else [])
    ++ (if c.index then [.index none [c.name]] else [])

theorem eq_of_mem_columnIndexes {c : Column} {command : Command} (h : command ∈ columnIndexes c) :
    command = .primary none [c.name] ∨ command = .unique none [c.name] ∨
      command = .index none [c.name] := by
  simp only [columnIndexes, List.mem_append] at h
  grind

/-- The keys that the flags of all columns ask for, column by column. -/
def fluentIndexes (b : Blueprint) : List Command := b.columns.flatMap columnIndexes

/-- Hyphens and dots become underscores. -/
def nameChar (c : Char) : Char := if c = '-' ∨ c = '.' then '_' else c

/-- The conventional name of a key: table, columns and kind, in lower case. -/
def indexName (b : Blueprint) (tablePrefix : String) (kind : IndexKind) (columns : List String) :
    String :=
  let name := tablePrefix ++ b.table ++ "_" ++ Text.joinWith "_" columns ++ "_" ++ kind.keyword
  String.ofList ((Text.lowercase name).toList.map nameChar)

end Blueprint
end SqlCompose
