import SqlCompose.Blueprint.Json
import SqlCompose.Proofs.ReadBack.Queries

/-!
# Reading blueprints back

What is written for a column, a command or a blueprint is read as just that. The fields of a column's
type stand in front of the column's own, and share no key with them.
-/
namespace SqlCompose

open Json Json.Members

namespace ColumnType

/-- A type is read from its fields, whatever follows. -/
theorem ofMembers?_members (t : ColumnType) (rest : Json.Members) :
    ofMembers? (t.members ++ rest) = some t := by
  cases t with
  | char length | string length =>
    refine bind_read rfl ?_
    exact bind_read (required?_of_lookup uint32_readsBack rfl) rfl
  | float total places | double total places =>
    refine bind_read rfl ?_
    refine bind_read (optional?_of_lookup uint32_readsBack uint32_ne_null rfl) ?_
    exact bind_read (optional?_of_lookup uint32_readsBack uint32_ne_null rfl) rfl
  | decimal total places =>
    refine bind_read rfl ?_
    refine bind_read (required?_of_lookup uint32_readsBack rfl) ?_
    exact bind_read (required?_of_lookup uint32_readsBack rfl) rfl
  | enumeration allowed =>
    refine bind_read rfl ?_
    exact bind_read (required?_of_lookup strings_readsBack rfl) rfl
  | dateTime precision | dateTimeTz precision | time precision | timeTz precision
  | timestamp precision | timestampTz precision =>
    refine bind_read rfl ?_
    exact bind_read (optional?_of_lookup uint32_readsBack uint32_ne_null rfl) rfl
  | _ => rfl

/-- The keys that the fields of a type may have. -/
def keys : List String := ["type", "length", "total", "places", "allowed", "precision"]

theorem key_mem_keys {t : ColumnType} {field : String × Json} (member : field ∈ t.members) :
    field.1 ∈ keys := by
  have all : ∀ field ∈ t.members, field.1 ∈ keys := by
    cases t <;> simp [members, attributes, keys]
  exact all field member

/-- Other fields are found behind those of a type. -/
theorem lookup_members_append {t : ColumnType} {rest : Json.Members} {key : String} {j : Json}
    (other : key ∉ keys) (found : List.lookup key rest = some j) :
    List.lookup key (t.members ++ rest) = some j := by
  rw [lookup_append, found]
  intro field member same
  exact other (same ▸ key_mem_keys member)

end ColumnType

theorem Column.ofJson?_toJson : ReadsBack toJson ofJson? := by
  intro c
  have text {key : String} {t : Option String} {fields : Json.Members} (other : key ∉ ColumnType.keys)
      (found : List.lookup key fields = some (ofOptionString t)) :
      optional? (c.type.members ++ fields) key string? = some t :=
    optional?_of_lookup string_readsBack string_ne_null
      (ColumnType.lookup_members_append other found)
  have flag {key : String} {b : Bool} {fields : Json.Members} (other : key ∉ ColumnType.keys)
      (found : List.lookup key fields = some (.bool b)) :
      defaulted? (c.type.members ++ fields) key bool? false = some b :=
    defaulted?_of_lookup bool_readsBack (ColumnType.lookup_members_append other found) _
  refine bind_read rfl ?_
  -- The type takes its fields from the front; all others are looked up behind them.
  refine bind_read (required?_of_lookup string_readsBack
    (ColumnType.lookup_members_append (by decide) rfl)) ?_
  refine bind_read (ColumnType.ofMembers?_members c.type _) ?_
  refine bind_read (flag (by decide) rfl) ?_
  refine bind_read (optional?_of_lookup Operand.ofJson?_toJson Operand.toJson_ne_null
    (ColumnType.lookup_members_append (by decide) rfl)) ?_
  refine bind_read (flag (by decide) rfl) ?_
  refine bind_read (flag (by decide) rfl) ?_
  refine bind_read (text (by decide) rfl) ?_
  refine bind_read (text (by decide) rfl) ?_
  refine bind_read (text (by decide) rfl) ?_
  refine bind_read (text (by decide) rfl) ?_
  refine bind_read (flag (by decide) rfl) ?_
  refine bind_read (flag (by decide) rfl) ?_
  refine bind_read (flag (by decide) rfl) ?_
  refine bind_read (flag (by decide) rfl) ?_
  exact bind_read (flag (by decide) rfl) rfl

theorem Column.keys_nodup (c : Column) : c.toJson.keys.Nodup := by
  unfold toJson
  cases c.type <;> simp [ColumnType.members, ColumnType.attributes, keys]

theorem Column.toJson_ne_null : NeverNull toJson := fun _ => nofun

theorem ReferentialAction.ofJson?_toJson : ReadsBack toJson ofJson? := by
  intro action
  cases action <;> rfl

theorem ReferentialAction.toJson_ne_null : NeverNull toJson := fun _ => nofun

theorem Command.ofJson?_toJson : ReadsBack toJson ofJson? := by
  intro command
  cases command with
  | create ifNotExists =>
    refine bind_read rfl (bind_read rfl ?_)
    exact bind_read (defaulted?_of_lookup bool_readsBack rfl _) rfl
  | add | drop | dropIfExists => rfl
  | rename table =>
    refine bind_read rfl (bind_read rfl ?_)
    exact bind_read (required?_of_lookup string_readsBack rfl) rfl
  | dropColumn columns =>
    refine bind_read rfl (bind_read rfl ?_)
    exact bind_read (required?_of_lookup strings_readsBack rfl) rfl
  | renameColumn old new definition =>
    refine bind_read rfl (bind_read rfl ?_)
    refine bind_read (required?_of_lookup string_readsBack rfl) ?_
    refine bind_read (required?_of_lookup string_readsBack rfl) ?_
    exact bind_read (optional?_of_lookup Column.ofJson?_toJson Column.toJson_ne_null rfl) rfl
  | primary name columns | unique name columns | index name columns =>
    refine bind_read rfl (bind_read rfl ?_)
    refine bind_read (optional?_of_lookup string_readsBack string_ne_null rfl) ?_
    exact bind_read (required?_of_lookup strings_readsBack rfl) rfl
  | foreign key =>
    refine bind_read rfl (bind_read rfl ?_)
    refine bind_read (optional?_of_lookup string_readsBack string_ne_null rfl) ?_
    refine bind_read (required?_of_lookup strings_readsBack rfl) ?_
    refine bind_read (required?_of_lookup string_readsBack rfl) ?_
    refine bind_read (required?_of_lookup strings_readsBack rfl) ?_
    refine bind_read (optional?_of_lookup ReferentialAction.ofJson?_toJson
      ReferentialAction.toJson_ne_null rfl) ?_
    exact bind_read (optional?_of_lookup ReferentialAction.ofJson?_toJson
      ReferentialAction.toJson_ne_null rfl) rfl
  | dropPrimary name =>
    refine bind_read rfl (bind_read rfl ?_)
    exact bind_read (optional?_of_lookup string_readsBack string_ne_null rfl) rfl
  | dropUnique name | dropIndex name | dropForeign name =>
    refine bind_read rfl (bind_read rfl ?_)
    exact bind_read (required?_of_lookup string_readsBack rfl) rfl

theorem Blueprint.ofJson?_toJson : ReadsBack toJson ofJson? := by
  intro b
  refine bind_read rfl ?_
  refine bind_read (defaulted?_of_lookup string_readsBack rfl _) ?_
  refine bind_read (defaulted?_of_lookup Column.ofJson?_toJson.list rfl _) ?_
  refine bind_read (defaulted?_of_lookup Command.ofJson?_toJson.list rfl _) ?_
  refine bind_read (optional?_of_lookup string_readsBack string_ne_null rfl) ?_
  refine bind_read (optional?_of_lookup string_readsBack string_ne_null rfl) ?_
  refine bind_read (optional?_of_lookup string_readsBack string_ne_null rfl) ?_
  exact bind_read (defaulted?_of_lookup bool_readsBack rfl _) rfl

/-! ## All that is sent -/

/-- Queries, rows, update lists and blueprints are read back as they were written, whatever stands in
them. A value is never read as trusted SQL, and trusted SQL never as a value or a name. -/
theorem json_reads_back :
    (∀ q : Query, Query.ofJson? q.toJson = some q) ∧
    (∀ row : Row, Row.ofJson? row.toJson = some row) ∧
    (∀ updates : List Assignment,
      Json.list? Assignment.ofJson? (.array (updates.map Assignment.toJson)) = some updates) ∧
    (∀ b : Blueprint, Blueprint.ofJson? b.toJson = some b) ∧
    (∀ v : Value, Expression.ofJson? v.toJson = none ∧
      Operand.ofJson? v.toJson = some (.value v) ∧
      ∀ place, Value.ofJsonAt? place v.toJson = some v) ∧
    (∀ sql : Expression, Operand.ofJson? sql.toJson = some (.raw sql) ∧
      Ident.ofJson? sql.toJson = some (.raw sql) ∧
      ∀ place, Value.ofJsonAt? place sql.toJson = none) ∧
    ∀ name : String, Ident.ofJson? (Ident.name name).toJson = some (.name name) := by
  refine ⟨Query.ofJsonAt?_toJson .plain, Row.ofJson?_toJson, Assignment.ofJson?_toJson.list,
    Blueprint.ofJson?_toJson, fun v => ?_, fun sql => ?_, fun name => ?_⟩
  · exact ⟨Expression.ofJson?_value v, Operand.ofJson?_toJson (.value v),
      fun place => Value.ofJsonAt?_toJson place v⟩
  · exact ⟨Operand.ofJson?_toJson (.raw sql), Ident.ofJson?_toJson (.raw sql),
      fun place => Expression.value_ofJson?_toJson place sql⟩
  · exact Ident.ofJson?_toJson (.name name)

/-- A document that looks like trusted SQL stays a document. -/
example (text : String) :
    let document := Value.json (.object [("raw", .string text)])
    Operand.ofJson? (Operand.value document).toJson = some (.value document) := rfl

end SqlCompose
