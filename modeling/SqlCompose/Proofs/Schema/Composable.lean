import SqlCompose.Proofs.Schema.KeyPhrase

/-!
# What names and types are put together from

The text of a name is made of quoted parts. That of a type is made of plain words, numbers, the literals
of allowed values and, where a check repeats it, the column's name. So a property of these that goes
through putting texts together is one of every name and of every type.
-/
namespace SqlCompose.SchemaDialect

/-- One of two texts. -/
theorem of_either {P : String → Prop} {s t : String} (flag : Bool) (one : P s) (other : P t) :
    P (if flag then s else t) := by
  cases flag
  · exact other
  · exact one

/-- A property of the texts that names and types are put together from. -/
structure Composable (d : SchemaDialect) (P : String → Prop) : Prop where
  append {s t : String} (left : P s) (right : P t) : P (s ++ t)
  /-- A fixed text; its characters are looked through. -/
  fixed {cs : List Char} (known : cs.all harmless = true) (words : keyless none (cs.map some) = true) :
    P (String.ofList cs)
  number (n : Nat) : P (toString n)
  part (s : String) : P (d.quoter.part s)
  literal (s : String) : P (d.literal s)

namespace Composable

variable {d : SchemaDialect} {P : String → Prop} (h : d.Composable P)

include h

theorem empty : P "" := h.fixed rfl rfl

theorem joined {sep : String} (between : P sep) {texts : List String} (each : ∀ s ∈ texts, P s) :
    P (Text.joinWith sep texts) := by
  induction texts with
  | nil => exact h.empty
  | cons s texts ih =>
    have others := ih fun t member => each t (by simp [member])
    cases texts with
    | nil => exact each s (by simp)
    | cons t texts => exact h.append (h.append (each s (by simp)) between) others

theorem mapped {α : Type} {sep : String} (between : P sep) {items : List α} {f : α → String}
    (each : ∀ x, P (f x)) : P (Text.joinWith sep (items.map f)) := by
  apply h.joined between
  intro s member
  obtain ⟨x, -, rfl⟩ := List.mem_map.mp member
  exact each x

/-! ## Names -/

theorem dotted (parts : List String) : P (Text.joinWith "." (parts.map d.quoter.part)) :=
  h.mapped (h.fixed rfl rfl) h.part

theorem named {s t : String} (name : P s) (knownAs : P t) : P (s ++ " as " ++ t) :=
  h.append (h.append name (h.fixed rfl rfl)) knownAs

theorem columnParts (name : String) : P (d.quoter.columnParts name) := by
  unfold Quoter.columnParts
  cases dottedParts name with
  | nil => exact h.dotted []
  | cons qualifier rest =>
    cases rest with
    | nil => exact h.dotted [qualifier]
    | cons s rest => exact h.dotted ((d.quoter.tablePrefix ++ qualifier) :: s :: rest)

theorem columnName (name : String) : P (d.quoter.columnName name) := by
  unfold Quoter.columnName
  split
  · exact h.named (h.columnParts _) (h.part _)
  · exact h.columnParts name

theorem columnNames (names : List String) : P (d.quoter.columnNames names) :=
  h.mapped (h.fixed rfl rfl) h.columnName

theorem tableName (name : String) : P (d.quoter.tableName name) := by
  unfold Quoter.tableName Quoter.tableParts
  split
  · exact h.named (h.dotted _) (h.part _)
  · exact h.dotted _

/-! ## Types -/

theorem allowed (allowed : List String) : P (d.allowedTexts allowed) :=
  h.mapped (h.fixed rfl rfl) h.literal

theorem precision (n : Nat) : P ("(" ++ toString n ++ ")") :=
  h.append (h.append (h.fixed rfl rfl) (h.number n)) (h.fixed rfl rfl)

theorem pair (a b : Nat) : P ("(" ++ toString a ++ ", " ++ toString b ++ ")") := by
  have first : P ("(" ++ toString a ++ ", ") :=
    h.append (h.append (h.fixed rfl rfl) (h.number a)) (h.fixed rfl rfl)
  exact h.append (h.append first (h.number b)) (h.fixed rfl rfl)

theorem sized {base : String} (word : P base) (length : UInt32) : P (sizedText base length) := by
  have spelled : sizedText base length = base ++ ("(" ++ toString length.toNat ++ ")") := by
    simp [sizedText, String.append_assoc]
  rw [spelled]
  exact h.append word (h.precision _)

theorem decimal (total places : UInt32) : P (decimalText total places) := by
  have spelled : decimalText total places =
      "decimal" ++ ("(" ++ toString total.toNat ++ ", " ++ toString places.toNat ++ ")") := by
    simp [decimalText, ← String.toList_inj]
  rw [spelled]
  exact h.append (h.fixed rfl rfl) (h.pair _ _)

theorem precisionText (precision : Option UInt32) : P (precisionText precision) := by
  cases precision with
  | none => exact h.empty
  | some n => exact h.precision _

theorem precisionPair (total places : Option UInt32) : P (precisionPair total places) := by
  cases total with
  | none => exact h.empty
  | some total =>
    cases places with
    | none => exact h.precision _
    | some places => exact h.pair _ _

theorem zoned {base zone : String} (precision : Option UInt32) (type : P base) (word : P zone) :
    P (zonedText base precision zone) := by
  have front : P (base ++ SqlCompose.precisionText precision ++ " ") :=
    h.append (h.append type (h.precisionText precision)) (h.fixed rfl rfl)
  exact h.append (h.append front word) (h.fixed rfl rfl)

theorem mySqlType (type : ColumnType) : P (d.mySqlType type) := by
  unfold SchemaDialect.mySqlType
  cases type with
  | char length => exact h.sized (h.fixed rfl rfl) length
  | string length => exact h.sized (h.fixed rfl rfl) length
  | float total places => exact h.append (h.fixed rfl rfl) (h.precisionPair total places)
  | double total places => exact h.append (h.fixed rfl rfl) (h.precisionPair total places)
  | decimal total places => exact h.decimal total places
  | enumeration allowed =>
    exact h.append (h.append (h.fixed rfl rfl) (h.allowed allowed)) (h.fixed rfl rfl)
  | dateTime precision => exact h.append (h.fixed rfl rfl) (h.precisionText precision)
  | dateTimeTz precision => exact h.append (h.fixed rfl rfl) (h.precisionText precision)
  | time precision => exact h.append (h.fixed rfl rfl) (h.precisionText precision)
  | timeTz precision => exact h.append (h.fixed rfl rfl) (h.precisionText precision)
  | timestamp precision => exact h.append (h.fixed rfl rfl) (h.precisionText precision)
  | timestampTz precision => exact h.append (h.fixed rfl rfl) (h.precisionText precision)
  | _ =>
    dsimp only
    exact h.fixed rfl rfl

theorem postgresType (column : Column) : P (d.postgresType column) := by
  unfold SchemaDialect.postgresType
  dsimp only
  cases column.type with
  | char length => exact h.sized (h.fixed rfl rfl) length
  | string length => exact h.sized (h.fixed rfl rfl) length
  | integer => exact of_either _ (h.fixed rfl rfl) (h.fixed rfl rfl)
  | mediumInteger => exact of_either _ (h.fixed rfl rfl) (h.fixed rfl rfl)
  | bigInteger => exact of_either _ (h.fixed rfl rfl) (h.fixed rfl rfl)
  | smallInteger => exact of_either _ (h.fixed rfl rfl) (h.fixed rfl rfl)
  | tinyInteger => exact of_either _ (h.fixed rfl rfl) (h.fixed rfl rfl)
  | decimal total places => exact h.decimal total places
  | enumeration allowed =>
    have checked : P ("varchar(255) check (" ++ d.quoter.part column.name) :=
      h.append (h.fixed rfl rfl) (h.part column.name)
    have inside : P " in (" := h.fixed rfl rfl
    exact h.append (h.append (h.append checked inside) (h.allowed allowed)) (h.fixed rfl rfl)
  | dateTime precision => exact h.zoned precision (h.fixed rfl rfl) (h.fixed rfl rfl)
  | timestamp precision => exact h.zoned precision (h.fixed rfl rfl) (h.fixed rfl rfl)
  | dateTimeTz precision => exact h.zoned precision (h.fixed rfl rfl) (h.fixed rfl rfl)
  | timestampTz precision => exact h.zoned precision (h.fixed rfl rfl) (h.fixed rfl rfl)
  | time precision => exact h.zoned precision (h.fixed rfl rfl) (h.fixed rfl rfl)
  | timeTz precision => exact h.zoned precision (h.fixed rfl rfl) (h.fixed rfl rfl)
  | _ =>
    dsimp only
    exact h.fixed rfl rfl

theorem type (column : Column) : P (d.typeText column) := by
  unfold typeText
  cases d.database with
  | mySql => exact h.mySqlType column.type
  | postgres => exact h.postgresType column

end Composable
end SqlCompose.SchemaDialect
