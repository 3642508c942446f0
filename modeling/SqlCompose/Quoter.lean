import SqlCompose.Name
import SqlCompose.Text.Blank
import SqlCompose.Text.Quoted

/-!
# Quoting names

How a name is written: each dotted part in the dialect's quotes, the bare `*` excepted. The table
prefix goes in front of a table, of its alias, and of the qualifier of a column.
-/
namespace SqlCompose

structure Quoter where
  quote : Char
  tablePrefix : String
  deriving DecidableEq, Repr

/-- A name without its alias, and the alias. -/
def splitAlias? (name : String) : Option (String × String) :=
  (Text.splitAs? name.toList).map fun (base, knownAs) =>
    (Text.trim (String.ofList base), Text.trim (String.ofList knownAs))

/-- The parts between the dots of a name. -/
def dottedParts (name : String) : List String :=
  (Text.splitAt '.' name.toList).map String.ofList

namespace Quoter

variable (w : Quoter)

/-- One part of a name. -/
def part (s : String) : String := if s = "*" then s else Text.quoted w.quote s

/-- A part starts with a quote, or it is the star. -/
theorem part_head (s : String) : ∃ c ∈ [w.quote, '*'], ∃ cs, (w.part s).toList = c :: cs := by
  unfold part
  split
  · next star => exact ⟨'*', by simp, [], by simp [star]⟩
  · exact ⟨w.quote, by simp, _, String.toList_ofList⟩

/-- The dotted parts of a table's name. -/
def tableParts (name : String) : String := Text.joinWith "." ((dottedParts name).map w.part)

/-- The dotted parts of a column's name; the first of several is a table and takes the prefix. -/
def columnParts (name : String) : String :=
  match dottedParts name with
  | qualifier :: rest@(_ :: _) =>
    Text.joinWith "." (w.part (w.tablePrefix ++ qualifier) :: rest.map w.part)
  | parts => Text.joinWith "." (parts.map w.part)

/-- A column, with its alias if it has one. -/
def columnName (name : String) : String :=
  match splitAlias? name with
  | some (base, knownAs) => w.columnParts base ++ " as " ++ w.part knownAs
  | none => w.columnParts name

/-- A table, with its alias if it has one. -/
def tableName (name : String) : String :=
  match splitAlias? name with
  | some (base, knownAs) =>
    w.tableParts (w.tablePrefix ++ base) ++ " as " ++ w.part (w.tablePrefix ++ knownAs)
  | none => w.tableParts (w.tablePrefix ++ name)

def column : Ident → String
  | .name text => w.columnName text
  | .raw sql => sql.text

def table : Ident → String
  | .name text => w.tableName text
  | .raw sql => sql.text

/-- The name that the rest of a statement knows a table by. -/
def tableAlias : Ident → String
  | .name text =>
    match splitAlias? text with
    | some (_, knownAs) => w.part (w.tablePrefix ++ knownAs)
    | none => w.tableName text
  | .raw sql => sql.text

def columns (names : List Ident) : String := Text.joinWith ", " (names.map w.column)

def columnNames (names : List String) : String := Text.joinWith ", " (names.map w.columnName)

end Quoter
end SqlCompose
