import SqlCompose.Proofs.Schema.Columns
import SqlCompose.Schema.Statement

/-!
# Identifiers of columns

A column is defined under its whole name in quotes. Comments, checks and renamings refer to it in the same
way, but keys and dropped columns read the name as a dotted one that may have an alias and whose qualifier
takes the prefix. The two agree on names without dots and aliases, and on no others
(`columns_identified_iff`).
-/
namespace SqlCompose

open Quotation

/-- A name without dots and without an alias. -/
def PlainName (name : String) : Prop := '.' ∉ name.toList ∧ Text.splitAs? name.toList = none

namespace SchemaDialect

variable {d : SchemaDialect} {b : Blueprint}

/-! ## The two readings of a name -/

/-- A part of a name holds no sign outside its quotes but the star. -/
theorem part_ne_parted {name s t : String} {c : Char} {cs : List Char}
    (closed : d.quotation.Closed s.toList) (known : (c :: cs).all harmless = true) (apart : c ≠ '*') :
    d.quoter.part name ≠ s ++ String.ofList (c :: cs) ++ t := by
  intro same
  have plain : ∀ e ∈ c :: cs, d.quotation.opens e = false := fun e member =>
    opens_harmless (List.all_eq_true.mp known e member)
  have marks := outline_part (d := d) name
  rw [same, outline, String.toList_append, String.toList_append, String.toList_ofList,
    outlineFrom_parted closed plain] at marks
  have sign : some c ∈ [if name = "*" then some '*' else none] := by simp [← marks]
  rw [List.mem_singleton] at sign
  split at sign
  · exact apart (Option.some.inj sign)
  · cases sign

theorem columnParts_of_not_mem {name : String} (plain : '.' ∉ name.toList) :
    d.quoter.columnParts name = d.quoter.part name := by
  have alone : dottedParts name = [name] := by simp [dottedParts, Text.splitAt_of_not_mem plain]
  simp [Quoter.columnParts, alone]

theorem columnParts_ne_part {name : String} (dotted : '.' ∈ name.toList) :
    d.quoter.part name ≠ d.quoter.columnParts name := by
  have several : 1 < (dottedParts name).length := by
    have some := List.count_pos_iff.mpr dotted
    rw [dottedParts, List.length_map, Text.length_splitAt]
    omega
  unfold Quoter.columnParts
  cases parts : dottedParts name with
  | nil => simp [parts] at several
  | cons qualifier rest =>
    cases rest with
    | nil => simp [parts] at several
    | cons s rest =>
      show _ ≠ d.quoter.part (d.quoter.tablePrefix ++ qualifier) ++ "." ++
        Text.joinWith "." ((s :: rest).map d.quoter.part)
      exact part_ne_parted (closed_part _) rfl (by decide)

/-- The two readings of a name agree just when it is plain. -/
theorem columnName_eq_part_iff (name : String) :
    d.quoter.columnName name = d.quoter.part name ↔ PlainName name := by
  unfold Quoter.columnName PlainName splitAlias?
  cases found : Text.splitAs? name.toList with
  | none =>
    rw [Option.map_none]
    refine ⟨fun same => ⟨fun dotted => columnParts_ne_part dotted same.symm, rfl⟩, ?_⟩
    exact fun plain => columnParts_of_not_mem plain.1
  | some texts =>
    obtain ⟨base, knownAs⟩ := texts
    constructor
    · intro same
      exact absurd same.symm (part_ne_parted (clean_composable.columnParts _).1 rfl (by decide))
    · rintro ⟨-, never⟩
      cases never

/-! ## Where columns are named -/

/-- The column is defined under a text, and its comment, its check, its neighbours and its renamings refer
to it by that text. -/
structure DefinedAs (d : SchemaDialect) (b : Blueprint) (name x : String) : Prop where
  definition (column : Column) (named : column.name = name) : d.columnText column = do
    let modifiers ← d.modifierTexts column d.modifiers
    return x ++ " " ++ d.typeText column ++ modifiers
  check (database : d.database = .postgres) (column : Column) (named : column.name = name)
    (allowed : List String) (enumerated : column.type = .enumeration allowed) :
    d.typeText column = "varchar(255) check (" ++ x ++ " in (" ++ d.allowedTexts allowed ++ "))"
  after (database : d.database = .mySql) (column : Column) (behind : column.after = some name) :
    d.modifierText column .after = .ok (" after " ++ x)
  comment (column : Column) (named : column.name = name) (comment : String) :
    d.commentText b column comment =
      "comment on column " ++ d.table b ++ "." ++ x ++ " is " ++ d.literal comment
  renamedFrom (database : d.database = .postgres) (new : String) (definition : Option Column) :
    d.command b (.renameColumn name new definition) =
      .ok [d.alter b ("rename column " ++ x ++ " to " ++ d.quoter.part new)]
  renamedTo (database : d.database = .postgres) (old : String) (definition : Option Column) :
    d.command b (.renameColumn old name definition) =
      .ok [d.alter b ("rename column " ++ d.quoter.part old ++ " to " ++ x)]
  changedFrom (database : d.database = .mySql) (new : String) (column : Column) :
    d.command b (.renameColumn name new (some column)) = do
      let text ← d.columnText { column with name := new }
      return [d.alter b ("change " ++ x ++ " " ++ text)]
  changedTo (database : d.database = .mySql) (old : String) (column : Column) :
    d.command b (.renameColumn old name (some column)) = do
      let modifiers ← d.modifierTexts { column with name } d.modifiers
      return [d.alter b ("change " ++ d.quoter.part old ++ " " ++
        (x ++ " " ++ d.typeText { column with name } ++ modifiers))]

/-- The columns of a command, with a text in the place of one of them. -/
def listing (d : SchemaDialect) (before : List String) (x : String) (after : List String) : List String :=
  before.map d.quoter.columnName ++ x :: after.map d.quoter.columnName

def primaryText (d : SchemaDialect) (b : Blueprint) (columns : String) : String :=
  d.alter b ("add primary key (" ++ columns ++ ")")

def uniqueText (d : SchemaDialect) (b : Blueprint) (key columns : String) : String :=
  match d.database with
  | .mySql => d.alter b ("add unique " ++ d.quoter.part key ++ " (" ++ columns ++ ")")
  | .postgres => d.alter b ("add constraint " ++ d.quoter.part key ++ " unique (" ++ columns ++ ")")

def indexText (d : SchemaDialect) (b : Blueprint) (key columns : String) : String :=
  match d.database with
  | .mySql => d.alter b ("add index " ++ d.quoter.part key ++ " (" ++ columns ++ ")")
  | .postgres => "create index " ++ d.quoter.part key ++ " on " ++ d.table b ++ " (" ++ columns ++ ")"

/-- The keys over a column, those of its flags among them, and the commands that drop it refer to it by a
text. -/
structure ListedAs (d : SchemaDialect) (b : Blueprint) (name x : String) : Prop where
  flagged (column : Column) (named : column.name = name) :
    d.commands b (Blueprint.columnIndexes column) = .ok
      ((if column.primary then [d.primaryText b x] else []) ++
        (if column.unique then [d.uniqueText b (d.keyName b .unique none [name]) x] else []) ++
        (if column.index then [d.indexText b (d.keyName b .index none [name]) x] else []))
  primary (key : Option String) (before after : List String) :
    d.command b (.primary key (before ++ name :: after)) =
      .ok [d.primaryText b (Text.joinWith ", " (d.listing before x after))]
  unique (key : Option String) (before after : List String) :
    d.command b (.unique key (before ++ name :: after)) =
      .ok [d.uniqueText b (d.keyName b .unique key (before ++ name :: after))
        (Text.joinWith ", " (d.listing before x after))]
  index (key : Option String) (before after : List String) :
    d.command b (.index key (before ++ name :: after)) =
      .ok [d.indexText b (d.keyName b .index key (before ++ name :: after))
        (Text.joinWith ", " (d.listing before x after))]
  foreign (key : ForeignKey) (before after : List String) (own : key.columns = before ++ name :: after) :
    d.command b (.foreign key) = .ok [d.alter b ("add constraint " ++
      d.quoter.part (d.keyName b .foreign key.name key.columns) ++ " foreign key (" ++
      Text.joinWith ", " (d.listing before x after) ++ ") references " ++ d.quoter.tableName key.table ++
      " (" ++ d.quoter.columnNames key.references ++ ")" ++
      actionText "delete" key.onDelete ++ actionText "update" key.onUpdate)]
  referenced (key : ForeignKey) (before after : List String)
    (others : key.references = before ++ name :: after) :
    d.command b (.foreign key) = .ok [d.alter b ("add constraint " ++
      d.quoter.part (d.keyName b .foreign key.name key.columns) ++ " foreign key (" ++
      d.quoter.columnNames key.columns ++ ") references " ++ d.quoter.tableName key.table ++
      " (" ++ Text.joinWith ", " (d.listing before x after) ++ ")" ++
      actionText "delete" key.onDelete ++ actionText "update" key.onUpdate)]
  dropped (before after : List String) :
    d.command b (.dropColumn (before ++ name :: after)) =
      .ok [d.alter b (Text.joinWith ", " (prefixEach d.dropKeyword (d.listing before x after)))]

theorem definedAs_part (d : SchemaDialect) (b : Blueprint) (name : String) :
    d.DefinedAs b name (d.quoter.part name) where
  definition column named := named ▸ rfl
  check database column named allowed enumerated := by
    simp [typeText, postgresType, database, enumerated, named]
  after database column behind := by
    simp [modifierText, mySqlModifier, database, behind, partText]
  comment column named comment := named ▸ rfl
  renamedFrom database new definition := by
    simp [command, renameColumn, database]
  renamedTo database old definition := by
    simp [command, renameColumn, database]
  changedFrom database new column := by
    simp [command, renameColumn, database]
  changedTo database old column := by
    simp [command, renameColumn, columnText, database]

theorem columnNames_listing (before after : List String) (name : String) :
    d.quoter.columnNames (before ++ name :: after) =
      Text.joinWith ", " (d.listing before (d.quoter.columnName name) after) := by
  simp [Quoter.columnNames, listing]

theorem addPrimary_eq (b : Blueprint) (columns : List String) :
    d.addPrimary b columns = d.primaryText b (d.quoter.columnNames columns) := by
  simp [addPrimary, addKey, primaryText]

theorem addUnique_eq (b : Blueprint) (key : Option String) (columns : List String) :
    d.addUnique b key columns =
      d.uniqueText b (d.keyName b .unique key columns) (d.quoter.columnNames columns) := by
  cases database : d.database <;>
    simp [addUnique, addKey, uniqueText, alter, database, ← String.toList_inj]

theorem addIndex_eq (b : Blueprint) (key : Option String) (columns : List String) :
    d.addIndex b key columns =
      d.indexText b (d.keyName b .index key columns) (d.quoter.columnNames columns) := by
  cases database : d.database <;>
    simp [addIndex, addKey, indexText, database, ← String.append_assoc]

theorem listedAs_columnName (d : SchemaDialect) (b : Blueprint) (name : String) :
    d.ListedAs b name (d.quoter.columnName name) where
  flagged column named := by
    have alone : d.quoter.columnNames [name] = d.quoter.columnName name := rfl
    unfold Blueprint.columnIndexes
    cases column.primary <;> cases column.unique <;> cases column.index <;>
      simp [commands, command, named, addPrimary_eq, addUnique_eq, addIndex_eq, alone] <;> rfl
  primary key before after := by rw [command, addPrimary_eq, columnNames_listing]
  unique key before after := by rw [command, addUnique_eq, columnNames_listing]
  index key before after := by rw [command, addIndex_eq, columnNames_listing]
  foreign key before after own := by rw [command, addForeign, ← columnNames_listing, own]
  referenced key before after others := by rw [command, addForeign, ← columnNames_listing, others]
  dropped before after := by
    cases before <;> simp [command, dropColumns, listing]

/-- No other text is the one that the column is defined under. -/
theorem DefinedAs.eq_part {name x : String} (h : d.DefinedAs b name x) : x = d.quoter.part name := by
  let column : Column := { name, type := .date }
  have modified : d.modifierTexts column d.modifiers = .ok " not null" := by
    unfold modifiers
    cases database : d.database <;>
      simp [modifierTexts, modifierText, mySqlModifier, postgresModifier, database, wordText, partText,
        defaultModifier, nullableText, increments, column, bind, Except.bind, pure, Except.pure]
  have same := (h.definition column rfl).symm.trans ((definedAs_part d b name).definition column rfl)
  rw [modified] at same
  simpa [String.append_assoc] using Except.ok.inj same

/-- No other text is the one that keys refer to the column by. -/
theorem ListedAs.eq_columnName {name x : String} (h : d.ListedAs b name x) :
    x = d.quoter.columnName name := by
  have same := (h.primary none [] []).symm.trans ((listedAs_columnName d b name).primary none [] [])
  simpa [primaryText, alter, listing] using Except.ok.inj same

/-- A column is defined under its quoted name and listed in keys by its dotted one; one text is both just
when the name has no dot and no alias. -/
theorem columns_identified_iff (d : SchemaDialect) (b : Blueprint) (name : String) :
    d.DefinedAs b name (d.quoter.part name) ∧ d.ListedAs b name (d.quoter.columnName name) ∧
      ((∃ x, d.DefinedAs b name x ∧ d.ListedAs b name x) ↔ PlainName name) := by
  refine ⟨definedAs_part d b name, listedAs_columnName d b name, ?_⟩
  rw [← columnName_eq_part_iff (d := d)]
  constructor
  · rintro ⟨x, defined, listed⟩
    rw [← listed.eq_columnName, ← defined.eq_part]
  · intro same
    exact ⟨d.quoter.part name, definedAs_part d b name, same ▸ listedAs_columnName d b name⟩

end SchemaDialect
end SqlCompose
