import SqlCompose.Proofs.ReadBack.Calendar
import SqlCompose.Proofs.ReadBack.Fields
import SqlCompose.Row

/-!
# Reading values, names and rows back

A value is an object under the name of its kind, or the word `Null`; trusted SQL is an object under
`raw`; a name is a text. No kind is called `raw`, so none of the three is taken for another, whatever
a value holds.
-/
namespace SqlCompose

open Json

namespace Value

theorem ofJsonAt?_toJson (place : Json.Place) : ReadsBack toJson (ofJsonAt? place) := by
  intro v
  cases v with
  | int n =>
    have read : int64? (.int n.toInt) = some n := int64_readsBack n
    simp [toJson, ofJsonAt?, ofKind?, read]
  | uint n =>
    have read : uint64? (.int n.toNat) = some n := uint64_readsBack n
    simp [toJson, ofJsonAt?, ofKind?, read]
  | bytes content =>
    have read := uint8_readsBack.list content
    simp [toJson, ofJsonAt?, ofKind?, read]
  | uuid u => simp [toJson, ofJsonAt?, ofKind?, string?, Uuid.ofText?_toText]
  | date d => simp [toJson, ofJsonAt?, ofKind?, string?, Date.ofText?_toText]
  | timestamp t => simp [toJson, ofJsonAt?, ofKind?, string?, Timestamp.ofText?_toZulu]
  | float x => rfl
  | string s => rfl
  | bool b => rfl
  | json j => rfl
  | null => rfl

theorem ofJson?_toJson : ReadsBack toJson ofJson? := ofJsonAt?_toJson .plain

theorem toJson_ne_null : NeverNull toJson := by
  intro v
  cases v <;> exact nofun

end Value

namespace Expression

theorem ofJson?_toJson : ReadsBack toJson ofJson? := fun _ => rfl

theorem toJson_ne_null : NeverNull toJson := fun _ => nofun

/-- A value is not read as trusted SQL. -/
theorem ofJson?_value (v : Value) : ofJson? v.toJson = none := by
  cases v <;> rfl

/-- Trusted SQL is not read as a value. -/
theorem value_ofJson?_toJson (place : Json.Place) (sql : Expression) :
    Value.ofJsonAt? place sql.toJson = none := rfl

end Expression

theorem Ident.ofJson?_toJson : ReadsBack toJson ofJson? := by
  intro name
  cases name <;> rfl

theorem Ident.toJson_ne_null : NeverNull toJson := by
  intro name
  cases name <;> exact nofun

theorem Operand.ofJson?_toJson : ReadsBack toJson ofJson? := by
  intro operand
  cases operand with
  | value v =>
    show ofJson? v.toJson = _
    rw [ofJson?, Expression.ofJson?_value, Value.ofJson?_toJson]
    rfl
  | raw sql => rfl

theorem Operand.toJson_ne_null : NeverNull toJson := by
  intro operand
  cases operand with
  | value v => exact v.toJson_ne_null
  | raw sql => exact sql.toJson_ne_null

/-! ## Rows and assignments -/

namespace Row

theorem entriesOf?_map (entries : List (String × Operand)) :
    entriesOf? (entries.map fun (c, o) => (c, o.toJson)) = some entries := by
  induction entries with
  | nil => rfl
  | cons entry entries ih => simp [entriesOf?, Operand.ofJson?_toJson entry.2, ih]

theorem ofJson?_toJson : ReadsBack toJson ofJson? := by
  intro row
  have read : ofJson? row.toJson = some (ofList row.entries) := by
    simp [ofJson?, toJson, members?, entriesOf?_map]
  have same : ofList row.entries = row := by
    simp [ofList, Keyed.ofList_eq_self row.sorted]
  rw [read, same]

end Row

theorem Assignment.ofJson?_toJson : ReadsBack toJson ofJson? := by
  intro assignment
  cases assignment with
  | inserted column => rfl
  | set column operand =>
    refine bind_read rfl ?_
    exact bind_read (Members.required?_of_lookup Operand.ofJson?_toJson rfl) rfl

end SqlCompose
