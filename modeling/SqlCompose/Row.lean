import SqlCompose.Name

/-!
# Rows

The columns of an inserted row, or of the assignments of an update, in code-point order, so that
rows with the same columns line up.
-/
namespace SqlCompose

structure Row where
  entries : List (String × Operand)
  sorted : Keyed.Sorted entries

namespace Row

def ofList (entries : List (String × Operand)) : Row :=
  ⟨Keyed.ofList entries, Keyed.sorted_ofList entries⟩

def columns (row : Row) : List String := row.entries.map Prod.fst

def operands (row : Row) : List Operand := row.entries.map Prod.snd

def isEmpty (row : Row) : Bool := row.entries.isEmpty

def toJson (row : Row) : Json := .object (row.entries.map fun (c, o) => (c, o.toJson))

def entriesOf? : List (String × Json) → Option (List (String × Operand))
  | [] => some []
  | (column, j) :: rest => do return (column, ← Operand.ofJson? j) :: (← entriesOf? rest)

def ofJson? (j : Json) : Option Row := do return ofList (← entriesOf? (← j.members?))

end Row

/-- One entry of the update list of an upsert. -/
inductive Assignment where
  /-- The column takes the value that the insert would have written. -/
  | inserted (column : String)
  | set (column : String) (operand : Operand)

def Assignment.toJson : Assignment → Json
  | .inserted column => .string column
  | .set column operand => .object [("column", .string column), ("value", operand.toJson)]

def Assignment.ofJson? : Json → Option Assignment
  | .string column => some (.inserted column)
  | .object members => do
    let column ← Json.Members.required? members "column" Json.string?
    let operand ← Json.Members.required? members "value" Operand.ofJson?
    return .set column operand
  | _ => none

end SqlCompose
