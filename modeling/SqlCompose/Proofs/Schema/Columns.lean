import SqlCompose.Proofs.Schema.Composable

/-!
# Clean column definitions

A column's definition is clean whatever its name, comment, allowed values and settings, as long as its
default is no trusted SQL.
-/
namespace SqlCompose

/-- The default of the column is a value. -/
def Column.PlainDefault (column : Column) : Prop := ∀ sql, column.default ≠ some (.raw sql)

namespace SchemaDialect

variable {d : SchemaDialect}

/-! ## Types -/

theorem clean_composable : d.Composable d.Clean where
  append left right := left.append right
  fixed known _ := clean_fixed known
  number := clean_number
  part := clean_part
  literal := clean_literal

theorem clean_type (column : Column) : d.Clean (d.typeText column) := clean_composable.type column

/-! ## Modifiers -/

/-- One of two fixed texts. -/
theorem clean_flag {cs cs' : List Char} (flag : Bool) (one : cs.all harmless = true)
    (other : cs'.all harmless = true) :
    d.Clean (if flag then String.ofList cs else String.ofList cs') :=
  of_either flag (clean_fixed one) (clean_fixed other)

theorem clean_default (v : Value) : Yields d.Clean (d.defaultText (.value v)) := by
  have truth (b : Bool) : d.Clean (d.boolLiteral b) := by
    unfold boolLiteral
    cases d.database <;> cases b <;> exact clean_fixed rfl
  unfold defaultText
  split
  · next given => cases given
  · exact .ok (truth _)
  · exact .ok (clean_fixed rfl)
  · next given =>
    split
    · exact .ok (clean_literal _)
    · exact .error _

theorem clean_defaultModifier {column : Column} (plain : column.PlainDefault) :
    Yields d.Clean (d.defaultModifier column) := by
  unfold defaultModifier
  split
  · exact .ok (clean_fixed rfl)
  · split
    · next operand given =>
      cases operand with
      | raw sql => exact absurd given (plain sql)
      | value v =>
        apply (clean_default v).bind
        intro text clean
        exact .ok (clean.lead rfl)
    · exact .ok clean_empty

theorem clean_partText {keyword : List Char} (part : Option String) {write : String → String}
    (written : ∀ s, d.Clean (write s)) (known : keyword.all harmless = true) :
    d.Clean (partText (String.ofList keyword) part write) := by
  cases part with
  | none => exact clean_empty
  | some s => exact (written s).lead known

theorem clean_wordText {keyword : List Char} (setting : Setting) (word : Option String)
    (known : keyword.all harmless = true) :
    Yields d.Clean (wordText (String.ofList keyword) setting word) := by
  cases word with
  | none => exact .ok clean_empty
  | some s =>
    apply (clean_bareWord setting s).bind
    intro text clean
    exact .ok (clean.lead known)

theorem clean_modifier {column : Column} (plain : column.PlainDefault) (m : Modifier) :
    Yields d.Clean (d.modifierText column m) := by
  unfold modifierText
  cases d.database with
  | mySql =>
    cases m with
    | unsigned => exact .ok (clean_flag _ rfl rfl)
    | charset => exact clean_wordText _ _ rfl
    | collate => exact clean_wordText _ _ rfl
    | nullable => exact .ok (clean_flag _ rfl rfl)
    | default => exact clean_defaultModifier plain
    | increment => exact .ok (clean_flag _ rfl rfl)
    | comment => exact .ok (clean_partText _ clean_literal rfl)
    | after => exact .ok (clean_partText _ clean_part rfl)
    | first => exact .ok (clean_flag _ rfl rfl)
  | postgres =>
    cases m with
    | collate => exact .ok (clean_partText _ clean_part rfl)
    | increment => exact .ok (clean_flag _ rfl rfl)
    | nullable => exact .ok (clean_flag _ rfl rfl)
    | default => exact clean_defaultModifier plain
    | _ => exact .ok clean_empty

theorem clean_modifiers {column : Column} (plain : column.PlainDefault) (ms : List Modifier) :
    Yields d.Clean (d.modifierTexts column ms) := by
  induction ms with
  | nil => exact .ok clean_empty
  | cons m ms ih =>
    apply (clean_modifier plain m).bind
    intro text first
    apply ih.bind
    intro texts rest
    exact .ok (first.append rest)

theorem clean_column {column : Column} (plain : column.PlainDefault) :
    Yields d.Clean (d.columnText column) := by
  apply (clean_modifiers plain d.modifiers).bind
  intro modifiers clean
  have typed : d.Clean (d.quoter.part column.name ++ " " ++ d.typeText column) :=
    ((clean_part column.name).fixed rfl).append (clean_type column)
  exact .ok (typed.append clean)

theorem clean_columns {columns : List Column} (plain : ∀ c ∈ columns, c.PlainDefault) :
    Yields (fun texts => ∀ s ∈ texts, d.Clean s) (d.columnTexts columns) := by
  induction columns with
  | nil => exact .ok (by simp)
  | cons column columns ih =>
    apply (clean_column (plain column (by simp))).bind
    intro text first
    apply (ih fun c member => plain c (by simp [member])).bind
    intro texts rest
    exact .ok (by simpa using ⟨first, rest⟩)

end SchemaDialect
end SqlCompose
