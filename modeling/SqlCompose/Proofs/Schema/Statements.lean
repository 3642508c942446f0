import SqlCompose.Proofs.Schema.Columns
import SqlCompose.Schema.Statement

/-!
# Clean statements on tables

Every statement of a blueprint is clean: no name, comment, allowed value, default or option can leave
its place and become part of the statement (`statements_clean`).
-/
namespace SqlCompose

/-- No default in the command is trusted SQL. -/
def Command.PlainDefault : Command → Prop
  | .renameColumn _ _ (some column) => column.PlainDefault
  | _ => True

/-- No default in the blueprint is trusted SQL. -/
structure Blueprint.PlainDefaults (b : Blueprint) : Prop where
  columns : ∀ column ∈ b.columns, column.PlainDefault
  commands : ∀ command ∈ b.commands, command.PlainDefault

namespace SchemaDialect

variable {d : SchemaDialect}

theorem clean_table (b : Blueprint) : d.Clean (d.table b) := clean_composable.tableName b.table

theorem clean_alter (b : Blueprint) {change : String} (clean : d.Clean change) :
    d.Clean (d.alter b change) :=
  ((clean_table b).between rfl rfl).append clean

theorem clean_prefixEach {keyword : String} (leading : d.Clean keyword)
    {texts : List String} (each : ∀ s ∈ texts, d.Clean s) :
    d.Clean (Text.joinWith ", " (prefixEach keyword texts)) := by
  apply clean_composable.joined (clean_fixed rfl)
  intro s member
  obtain ⟨t, inside, rfl⟩ := List.mem_map.mp member
  exact (leading.fixed rfl).append (each t inside)

/-! ## Creating and adding columns -/

theorem clean_options (b : Blueprint) : Yields d.Clean (d.createOptions b) := by
  unfold createOptions
  cases d.database with
  | postgres => exact .ok clean_empty
  | mySql =>
    apply (clean_wordText _ _ rfl).bind
    intro charset first
    apply (clean_wordText _ _ rfl).bind
    intro collation second
    apply (clean_wordText _ _ rfl).bind
    intro engine third
    refine .ok (clean_composable.joined (clean_fixed rfl) fun s member => ?_)
    have given := List.mem_of_mem_filter member
    simp only [List.mem_cons, List.not_mem_nil, or_false] at given
    rcases given with rfl | rfl | rfl
    · exact first
    · exact second
    · exact third

theorem clean_comments (b : Blueprint) : ∀ s ∈ d.comments b, d.Clean s := by
  intro s member
  unfold comments at member
  cases database : d.database with
  | mySql => simp [database] at member
  | postgres =>
    simp only [database, List.mem_filterMap] at member
    obtain ⟨column, -, given⟩ := member
    obtain ⟨comment, -, rfl⟩ := Option.map_eq_some_iff.mp given
    have front : d.Clean ("comment on column " ++ d.table b ++ ".") :=
      (clean_table b).between rfl rfl
    have named : d.Clean ("comment on column " ++ d.table b ++ "." ++ d.quoter.part column.name ++
        " is ") := (front.append (clean_part column.name)).fixed rfl
    exact named.append (clean_literal comment)

theorem clean_create {b : Blueprint} (plain : b.PlainDefaults) (ifNotExists : Bool) :
    Yields (fun texts => ∀ s ∈ texts, d.Clean s) (d.create b ifNotExists) := by
  apply (clean_columns plain.columns).bind
  intro columns defined
  apply (clean_options b).bind
  intro options written
  have kind : d.Clean ("create " ++ (if b.temporary then "temporary " else "") ++ "table ") :=
    (clean_flag _ rfl rfl).between rfl rfl
  have guard : d.Clean (if ifNotExists then "if not exists " else "") := clean_flag _ rfl rfl
  have guarded := kind.append guard
  have opening : d.Clean " (" := clean_fixed rfl
  have closing : d.Clean ")" := clean_fixed rfl
  have list : d.Clean (Text.joinWith ", " columns) := clean_composable.joined (clean_fixed rfl) defined
  have body := (((guarded.append (clean_table b)).append opening).append list).append closing
  have ending : d.Clean (if options = "" then "" else " " ++ options) := by
    split
    · exact clean_empty
    · exact written.lead rfl
  refine .ok fun s member => ?_
  rcases List.mem_cons.mp member with rfl | comment
  · exact body.append ending
  · exact clean_comments b s comment

theorem clean_add {b : Blueprint} (plain : b.PlainDefaults) :
    Yields (fun texts => ∀ s ∈ texts, d.Clean s) (d.add b) := by
  have keyword : d.Clean d.addKeyword := by
    unfold addKeyword
    cases d.database <;> exact clean_fixed rfl
  unfold add
  split
  · exact .ok (by simp)
  · apply (clean_columns plain.columns).bind
    intro columns defined
    refine .ok fun s member => ?_
    rcases List.mem_cons.mp member with rfl | comment
    · exact clean_alter b (clean_prefixEach keyword defined)
    · exact clean_comments b s comment

/-! ## Changing and dropping columns -/

theorem clean_dropColumns (b : Blueprint) (columns : List String) :
    ∀ s ∈ d.dropColumns b columns, d.Clean s := by
  have keyword : d.Clean d.dropKeyword := by
    unfold dropKeyword
    cases d.database <;> exact clean_fixed rfl
  intro s member
  cases columns with
  | nil => cases member
  | cons column columns =>
    obtain rfl := List.mem_singleton.mp member
    apply clean_alter b (clean_prefixEach keyword _)
    intro t inside
    obtain ⟨name, -, rfl⟩ := List.mem_map.mp inside
    exact clean_composable.columnName name

theorem clean_renameTable (b : Blueprint) (table : String) : d.Clean (d.renameTable b table) := by
  unfold renameTable
  cases d.database with
  | mySql =>
    exact ((clean_table b).between rfl rfl).append (clean_composable.tableName table)
  | postgres => exact clean_alter b ((clean_composable.tableName table).lead rfl)

theorem clean_renameColumn (b : Blueprint) {old new : String} {definition : Option Column}
    (plain : (Command.renameColumn old new definition).PlainDefault) :
    Yields d.Clean (d.renameColumn b old new definition) := by
  unfold renameColumn
  cases d.database with
  | mySql =>
    cases definition with
    | none => exact .error _
    | some column =>
      have renamed : Column.PlainDefault { column with name := new } := plain
      apply (clean_column renamed).bind
      intro text defined
      have changed : d.Clean ("change " ++ d.quoter.part old ++ " ") :=
        (clean_part old).between rfl rfl
      exact .ok (clean_alter b (changed.append defined))
  | postgres =>
    have changed : d.Clean ("rename column " ++ d.quoter.part old ++ " to ") :=
      (clean_part old).between rfl rfl
    exact .ok (clean_alter b (changed.append (clean_part new)))

/-! ## Keys -/

theorem clean_addKey (b : Blueprint) {clause : String} (clean : d.Clean clause)
    (columns : List String) : d.Clean (d.addKey b clause columns) := by
  have front : d.Clean ("add " ++ clause ++ " (") := clean.between rfl rfl
  exact clean_alter b ((front.append (clean_composable.columnNames columns)).fixed rfl)

theorem clean_addUnique (b : Blueprint) (name : Option String) (columns : List String) :
    d.Clean (d.addUnique b name columns) := by
  unfold addUnique
  cases d.database with
  | mySql => exact clean_addKey b ((clean_part _).lead rfl) columns
  | postgres =>
    exact clean_addKey b ((clean_part _).between rfl rfl) columns

theorem clean_addIndex (b : Blueprint) (name : Option String) (columns : List String) :
    d.Clean (d.addIndex b name columns) := by
  unfold addIndex
  cases d.database with
  | mySql => exact clean_addKey b ((clean_part _).lead rfl) columns
  | postgres =>
    have front : d.Clean ("create index " ++ d.quoter.part (d.keyName b .index name columns) ++
        " on ") := (clean_part _).between rfl rfl
    have opening : d.Clean " (" := clean_fixed rfl
    have body := ((front.append (clean_table b)).append opening).append (clean_composable.columnNames columns)
    exact body.fixed rfl

theorem clean_action {event : List Char} (action : Option ReferentialAction)
    (known : event.all harmless = true) : d.Clean (actionText (String.ofList event) action) := by
  cases action with
  | none => exact clean_empty
  | some action =>
    have word : d.Clean action.keyword := by cases action <;> exact clean_fixed rfl
    exact ((clean_fixed known).between rfl rfl).append word

theorem clean_addForeign (b : Blueprint) (key : ForeignKey) : d.Clean (d.addForeign b key) := by
  have constraint : d.Clean ("add constraint " ++
      d.quoter.part (d.keyName b .foreign key.name key.columns) ++ " foreign key (") :=
    (clean_part _).between rfl rfl
  have references : d.Clean ") references " := clean_fixed rfl
  have opening : d.Clean " (" := clean_fixed rfl
  have closing : d.Clean ")" := clean_fixed rfl
  have columns := (constraint.append (clean_composable.columnNames key.columns)).append references
  have referred := ((columns.append (clean_composable.tableName key.table)).append opening).append
    (clean_composable.columnNames key.references)
  have deleted : d.Clean (actionText "delete" key.onDelete) := clean_action _ rfl
  have updated : d.Clean (actionText "update" key.onUpdate) := clean_action _ rfl
  exact clean_alter b (((referred.append closing).append deleted).append updated)

theorem clean_dropConstraint (b : Blueprint) {name : String} (clean : d.Clean name) :
    d.Clean (d.dropConstraint b name) :=
  clean_alter b (clean.lead rfl)

theorem clean_dropPrimary (b : Blueprint) (name : Option String) :
    d.Clean (d.dropPrimary b name) := by
  unfold dropPrimary
  cases d.database with
  | mySql => exact clean_alter b (clean_fixed rfl)
  | postgres =>
    cases name with
    | none => exact clean_dropConstraint b (clean_composable.tableName _)
    | some name => exact clean_dropConstraint b (clean_part name)

theorem clean_dropUnique (b : Blueprint) (name : String) : d.Clean (d.dropUnique b name) := by
  unfold dropUnique
  cases d.database with
  | mySql => exact clean_alter b ((clean_part name).lead rfl)
  | postgres => exact clean_dropConstraint b (clean_part name)

theorem clean_dropIndex (b : Blueprint) (name : String) : d.Clean (d.dropIndex b name) := by
  unfold dropIndex
  cases d.database with
  | mySql => exact clean_alter b ((clean_part name).lead rfl)
  | postgres => exact (clean_part name).lead rfl

theorem clean_dropForeign (b : Blueprint) (name : String) : d.Clean (d.dropForeign b name) := by
  unfold dropForeign
  cases d.database with
  | mySql => exact clean_alter b ((clean_part name).lead rfl)
  | postgres => exact clean_dropConstraint b (clean_part name)

/-! ## Blueprints -/

theorem clean_command {b : Blueprint} (plain : b.PlainDefaults) {command : Command}
    (value : command.PlainDefault) :
    Yields (fun texts => ∀ s ∈ texts, d.Clean s) (d.command b command) := by
  have single {s : String} (clean : d.Clean s) :
      Yields (fun texts => ∀ s ∈ texts, d.Clean s) (.ok [s]) := .ok (by simpa using clean)
  cases command with
  | create ifNotExists => exact clean_create plain ifNotExists
  | add => exact clean_add plain
  | drop => exact single ((clean_table b).lead rfl)
  | dropIfExists => exact single ((clean_table b).lead rfl)
  | rename table => exact single (clean_renameTable b table)
  | dropColumn columns => exact .ok (clean_dropColumns b columns)
  | renameColumn old new definition =>
    apply (clean_renameColumn b value).bind
    intro text clean
    exact single clean
  | primary name columns => exact single (clean_addKey b (clean_fixed rfl) columns)
  | unique name columns => exact single (clean_addUnique b name columns)
  | index name columns => exact single (clean_addIndex b name columns)
  | foreign key => exact single (clean_addForeign b key)
  | dropPrimary name => exact single (clean_dropPrimary b name)
  | dropUnique name => exact single (clean_dropUnique b name)
  | dropIndex name => exact single (clean_dropIndex b name)
  | dropForeign name => exact single (clean_dropForeign b name)

theorem clean_commands {b : Blueprint} (plain : b.PlainDefaults) {commands : List Command}
    (values : ∀ command ∈ commands, command.PlainDefault) :
    Yields (fun texts => ∀ s ∈ texts, d.Clean s) (d.commands b commands) := by
  induction commands with
  | nil => exact .ok (by simp)
  | cons command commands ih =>
    apply (clean_command plain (values command (by simp))).bind
    intro first clean
    apply (ih fun other member => values other (by simp [member])).bind
    intro rest others
    refine .ok fun s member => ?_
    rcases List.mem_append.mp member with front | back
    · exact clean s front
    · exact others s back

/-- The commands that a blueprint brings of its own hold no defaults. -/
theorem allCommands_plain {b : Blueprint} (plain : b.PlainDefaults) :
    ∀ command ∈ allCommands b, command.PlainDefault := by
  intro command member
  unfold allCommands at member
  rcases List.mem_append.mp member with front | index
  · rcases List.mem_append.mp front with added | own
    · split at added
      · cases added
      · obtain rfl := List.mem_singleton.mp added
        trivial
    · exact plain.commands command own
  · obtain ⟨column, -, asked⟩ := List.mem_flatMap.mp index
    rcases Blueprint.eq_of_mem_columnIndexes asked with rfl | rfl | rfl <;> trivial

/-- Every statement of a blueprint without trusted SQL ends outside names and literals, and what stands
outside them is harmless. -/
theorem statements_clean (d : SchemaDialect) {b : Blueprint} (plain : b.PlainDefaults)
    {statements : List String} (written : d.statements b = .ok statements) :
    ∀ s ∈ statements, d.quotation.Closed s.toList ∧
      ∀ c, some c ∈ d.quotation.outline s → harmless c = true := by
  have each := clean_commands (d := d) plain (allCommands_plain plain)
  unfold SchemaDialect.statements at written
  rw [written] at each
  exact each.of_ok

/-- A table whose name, allowed values, default and comment hold quotes and backslashes. -/
def quotedBlueprint : Blueprint :=
  let column : Column :=
    { name := "a", type := .enumeration ["it's", "\\"], default := some (.value (.string "\\'; --")),
      comment := some "'" }
  { table := "t` (x", columns := [column], commands := [.create false] }

def quotedStatement : String :=
  "create table `t`` (x` (`a` enum('it''s', '\\\\') not null default '\\\\''; --' comment '''')"

theorem statements_clean_quotedBlueprint :
    quotedBlueprint.PlainDefaults ∧
    SchemaDialect.statements ⟨.mySql, "", {}⟩ quotedBlueprint = .ok [quotedStatement] ∧
    ∀ s ∈ [quotedStatement],
      (quotation ⟨.mySql, "", {}⟩).Closed s.toList ∧
        ∀ c, some c ∈ (quotation ⟨.mySql, "", {}⟩).outline s → harmless c = true := by
  have plain : quotedBlueprint.PlainDefaults := by
    constructor
    · intro column member
      obtain rfl := List.mem_singleton.mp member
      intro sql given
      cases given
    · intro command member
      obtain rfl := List.mem_singleton.mp member
      trivial
  have written :
      SchemaDialect.statements ⟨.mySql, "", {}⟩ quotedBlueprint = .ok [quotedStatement] := by
    decide
  exact ⟨plain, written, statements_clean _ plain written⟩

end SchemaDialect
end SqlCompose
