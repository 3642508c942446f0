import SqlCompose.Proofs.Schema.Kinds

/-!
# Where columns are defined

The columns of a blueprint are defined by the commands that create the table or add columns to it, and by
an implied addition if no command creates the table. The implied addition does not look at additions
among the commands, so these define the columns a second time (`columns_defined_once_unless_added`).
-/
namespace SqlCompose

/-- The commands that define every column of the blueprint. -/
def Command.definesColumns (c : Command) : Bool := c.kind == .definition

namespace SchemaDialect

/-- The statements that define columns: each definition stands in them once, in order. -/
inductive Defines (d : SchemaDialect) (b : Blueprint) (definitions : List String) : String → Prop
  | created (ifNotExists : Bool) {options : String} (configured : d.createOptions b = .ok options) :
      Defines d b definitions ("create " ++ (if b.temporary then "temporary " else "") ++ "table " ++
        (if ifNotExists then "if not exists " else "") ++ d.table b ++ " (" ++
        Text.joinWith ", " definitions ++ ")" ++ (if options = "" then "" else " " ++ options))
  | added (some : definitions ≠ []) :
      Defines d b definitions (d.alter b (Text.joinWith ", " (prefixEach d.addKeyword definitions)))

variable {d : SchemaDialect} {b : Blueprint}

/-- A definition starts with the column's name. -/
theorem columnText_front {column : Column} {text : String} (done : d.columnText column = .ok text) :
    ∃ rest, text = d.quoter.part column.name ++ rest := by
  obtain ⟨modifiers, -, done⟩ := bind_success done
  cases done
  exact ⟨" " ++ d.typeText column ++ modifiers, by simp only [String.append_assoc]⟩

theorem kind_created (b : Blueprint) (rest : String) :
    d.kind b ("create " ++ (if b.temporary then "temporary " else "") ++ "table " ++ rest) =
      .definition := by
  cases b.temporary <;> rw [kind_unaltered, if_pos] <;> simp [Text.begins, List.isPrefixOf]

/-- A column that is added is told from a key by its name. -/
theorem kind_added {definition : String} {definitions : List String} {column : Column}
    (done : d.columnText column = .ok definition) : d.kind b (d.alter b
      (Text.joinWith ", " (prefixEach d.addKeyword (definition :: definitions)))) = .definition := by
  obtain ⟨rest, rfl⟩ := columnText_front done
  obtain ⟨others, starts⟩ := Text.joinWith_front ", "
    (d.addKeyword ++ " " ++ (d.quoter.part column.name ++ rest)) (prefixEach d.addKeyword definitions)
  obtain ⟨c, first, cs, chars⟩ := d.quoter.part_head column.name
  rw [kind_alter, prefixEach, List.map_cons, ← prefixEach, starts, if_pos]
  simp only [List.mem_cons, List.not_mem_nil, or_false] at first
  rcases first with rfl | rfl <;> simp [Text.begins, chars, List.isPrefixOf_iff_prefix]

/-- The command writes one statement that defines the columns, and their comments behind it. -/
def WritesColumns (d : SchemaDialect) (b : Blueprint) (c : Command) : Prop :=
  ∃ definitions s, d.columnTexts b.columns = .ok definitions ∧ d.written b c = s :: d.comments b ∧
    d.Defines b definitions s ∧ d.kind b s = .definition

theorem writesColumns_create {ifNotExists : Bool}
    (done : d.command b (.create ifNotExists) = .ok (d.written b (.create ifNotExists))) :
    d.WritesColumns b (.create ifNotExists) := by
  obtain ⟨definitions, defined, done⟩ := bind_success done
  obtain ⟨options, configured, done⟩ := bind_success done
  refine ⟨definitions, _, defined, (Except.ok.inj done).symm, .created ifNotExists configured, ?_⟩
  simpa only [String.append_assoc] using kind_created b _

theorem add_eq (columns : b.columns ≠ []) : d.add b = (do
    let definitions ← d.columnTexts b.columns
    return d.alter b (Text.joinWith ", " (prefixEach d.addKeyword definitions)) :: d.comments b) := by
  obtain ⟨column, rest, given⟩ := List.exists_cons_of_ne_nil columns
  rw [add, given]

theorem writesColumns_add (columns : b.columns ≠ [])
    (done : d.command b .add = .ok (d.written b .add)) : d.WritesColumns b .add := by
  obtain ⟨column, rest, given⟩ := List.exists_cons_of_ne_nil columns
  obtain ⟨definitions, defined, done⟩ := bind_success ((add_eq columns).symm.trans done)
  have each := defined
  rw [given] at each
  obtain ⟨text, first, each⟩ := bind_success each
  obtain ⟨others, -, each⟩ := bind_success each
  cases each
  exact ⟨_, _, defined, (Except.ok.inj done).symm, .added (by simp), kind_added first⟩

theorem writesColumns {c : Command} (columns : b.columns ≠ []) (defines : c.definesColumns = true)
    (done : d.command b c = .ok (d.written b c)) : d.WritesColumns b c := by
  cases c with
  | create ifNotExists => exact writesColumns_create done
  | add => exact writesColumns_add columns done
  | _ => cases defines

/-- Commands that define no columns write none of the statements about columns. -/
theorem filter_written {c : Command} (defines : c.definesColumns = false) {k : StatementKind}
    (about : k = .definition ∨ k = .comment) : (d.written b c).filter (d.kind b · = k) = [] := by
  rw [List.filter_eq_nil_iff]
  intro s member
  have known : d.kind b s = .primaryKey ∨ d.kind b s = .other := by
    cases kind : c.kind with
    | definition => simp [Command.definesColumns, kind] at defines
    | comment => cases c <;> cases kind
    | primaryKey =>
      cases c with
      | primary name columns =>
        have one : d.written b (.primary name columns) = [d.addPrimary b columns] := rfl
        rw [one, List.mem_singleton] at member
        exact .inl (member ▸ kind_addPrimary b columns)
      | _ => cases kind
    | other => exact .inr (kind_written kind s member)
  rcases about with rfl | rfl <;> rcases known with known | known <;> simp [known]

/-- Behind the statement that defines the columns stand their comments alone. -/
theorem filter_definition {s : String} (defined : d.kind b s = .definition) :
    (s :: d.comments b).filter (d.kind b · = .definition) = [s] ∧
      (s :: d.comments b).filter (d.kind b · = .comment) = d.comments b := by
  constructor
  · have none : (d.comments b).filter (d.kind b · = .definition) = [] := by
      rw [List.filter_eq_nil_iff]
      intro t member
      simp [kind_comment member]
    rw [List.filter_cons_of_pos (by simpa using defined), none]
  · have all : (d.comments b).filter (d.kind b · = .comment) = d.comments b := by
      rw [List.filter_eq_self]
      intro t member
      simp [kind_comment member]
    rw [List.filter_cons_of_neg (by simp [defined]), all]

end SchemaDialect

/-! ## The commands that define columns -/

namespace Blueprint

/-- Those of the blueprint, behind an addition if none of them creates the table. -/
def definingCommands (b : Blueprint) : List Command :=
  (if b.creating then [] else [.add]) ++ b.commands.filter Command.definesColumns

/-- With at most one command of its own, a blueprint defines its columns once, or by two additions. -/
theorem definingCommands_of_single {b : Blueprint} (single : b.commands.countP Command.definesColumns ≤ 1) :
    (.add ∉ b.commands ∧ ∃ c, c.definesColumns = true ∧ b.definingCommands = [c]) ∨
      (.add ∈ b.commands ∧ b.definingCommands = [.add, .add]) := by
  have creating : b.creating = (b.commands.filter Command.definesColumns).any Command.isCreate := by
    rw [List.any_filter, Blueprint.creating]
    congr 1
    funext c
    cases c <;> rfl
  have adding : .add ∈ b.commands ↔ .add ∈ b.commands.filter Command.definesColumns :=
    ⟨fun member => List.mem_filter.mpr ⟨member, rfl⟩, fun member => (List.mem_filter.mp member).1⟩
  have defines : ∀ c ∈ b.commands.filter Command.definesColumns, c.definesColumns = true :=
    fun c member => (List.mem_filter.mp member).2
  rw [List.countP_eq_length_filter] at single
  unfold definingCommands
  rw [creating, adding]
  generalize b.commands.filter Command.definesColumns = commands at single defines ⊢
  cases commands with
  | nil => exact .inl ⟨by simp, .add, rfl, rfl⟩
  | cons c others =>
    have own := defines c (by simp)
    obtain rfl : others = [] := by simpa using single
    cases c with
    | create ifNotExists => exact .inl ⟨by simp, .create ifNotExists, rfl, rfl⟩
    | add => exact .inr ⟨by simp, rfl⟩
    | _ => cases own

end Blueprint

namespace SchemaDialect

variable {d : SchemaDialect} {b : Blueprint}

theorem filter_allCommands (columns : b.columns ≠ []) :
    (allCommands b).filter Command.definesColumns = b.definingCommands := by
  have some_column : b.columns.isEmpty = false := by simpa using columns
  have keys : b.fluentIndexes.filter Command.definesColumns = [] := by
    rw [List.filter_eq_nil_iff]
    intro c member
    obtain ⟨column, -, asked⟩ := List.mem_flatMap.mp member
    rcases Blueprint.eq_of_mem_columnIndexes asked with rfl | rfl | rfl <;>
      simp [Command.definesColumns, Command.kind]
  rw [allCommands, Blueprint.definingCommands, List.filter_append, List.filter_append, keys,
    List.append_nil, some_column, Bool.false_or]
  cases b.creating <;> rfl

/-- A list of lists is made up of those that are not empty. -/
theorem flatMap_filter {α β : Type} {p : α → Bool} {f : α → List β}
    (none : ∀ x, p x = false → f x = []) (xs : List α) : (xs.filter p).flatMap f = xs.flatMap f := by
  induction xs with
  | nil => rfl
  | cons x xs ih =>
    cases kept : p x with
    | true => rw [List.filter_cons_of_pos kept, List.flatMap_cons, List.flatMap_cons, ih]
    | false =>
      rw [List.filter_cons_of_neg (by simp [kept]), List.flatMap_cons, none x kept, ih, List.nil_append]

/-- What is written about columns is written by the commands that define them. -/
theorem filter_statements {statements : List String} (columns : b.columns ≠ [])
    (done : d.statements b = .ok statements) {k : StatementKind}
    (about : k = .definition ∨ k = .comment) : statements.filter (d.kind b · = k) =
      b.definingCommands.flatMap fun c => (d.written b c).filter (d.kind b · = k) := by
  rw [(commands_written done).1, List.filter_flatMap, ← filter_allCommands columns,
    flatMap_filter fun c defines => filter_written defines about]

/-- If the commands define the columns at most once and none adds them, they are defined, and commented on,
once; if one adds them, the same statements are written twice. -/
theorem columns_defined_once_unless_added (d : SchemaDialect) {b : Blueprint} {statements : List String}
    (columns : b.columns ≠ []) (single : b.commands.countP Command.definesColumns ≤ 1)
    (done : d.statements b = .ok statements) :
    ∃ definitions s, d.columnTexts b.columns = .ok definitions ∧ d.Defines b definitions s ∧
      (.add ∉ b.commands → statements.filter (d.kind b · = .definition) = [s] ∧
        statements.filter (d.kind b · = .comment) = d.comments b) ∧
      (.add ∈ b.commands → statements.filter (d.kind b · = .definition) = [s, s] ∧
        statements.filter (d.kind b · = .comment) = d.comments b ++ d.comments b) := by
  have definitions := filter_statements columns done (.inl rfl)
  have comments := filter_statements columns done (.inr rfl)
  have each {c : Command} (member : c ∈ b.definingCommands) :
      d.command b c = .ok (d.written b c) := by
    rw [← filter_allCommands columns] at member
    exact (commands_written done).2 c (List.mem_filter.mp member).1
  rcases Blueprint.definingCommands_of_single single with ⟨never, c, defines, only⟩ | ⟨adds, twice⟩
  · obtain ⟨texts, s, defined, written, shape, kind⟩ :=
      writesColumns columns defines (each (by simp [only]))
    obtain ⟨one, rest⟩ := filter_definition kind
    refine ⟨texts, s, defined, shape, fun _ => ⟨?_, ?_⟩, fun adds => absurd adds never⟩
    · simp only [definitions, only, List.flatMap_singleton, written, one]
    · simp only [comments, only, List.flatMap_singleton, written, rest]
  · obtain ⟨texts, s, defined, written, shape, kind⟩ :=
      writesColumns_add columns (each (by simp [twice]))
    obtain ⟨one, rest⟩ := filter_definition kind
    refine ⟨texts, s, defined, shape, fun never => absurd adds never, fun _ => ⟨?_, ?_⟩⟩
    · simp [definitions, twice, written, one]
    · simp [comments, twice, written, rest]

/-- A column with a comment, in a blueprint that adds its columns by a command. -/
def addedNickname : Blueprint where
  table := "users"
  columns := [{ name := "nickname", type := .text, comment := some "it's optional" }]
  commands := [.dropIndex "users_name_index", .add]

def nicknameStatements : List String :=
  ["alter table \"users\" add column \"nickname\" text not null",
    "comment on column \"users\".\"nickname\" is 'it''s optional'"]

theorem columns_defined_once_unless_added_addedNickname :
    let d : SchemaDialect := ⟨.postgres, "", {}⟩
    let statements := nicknameStatements ++ ["drop index \"users_name_index\""] ++ nicknameStatements
    addedNickname.columns ≠ [] ∧ addedNickname.commands.countP Command.definesColumns ≤ 1 ∧
    d.statements addedNickname = .ok statements ∧
    ∃ definitions s, d.columnTexts addedNickname.columns = .ok definitions ∧
      d.Defines addedNickname definitions s ∧
      statements.filter (d.kind addedNickname · = .definition) = [s, s] ∧
      statements.filter (d.kind addedNickname · = .comment) =
        d.comments addedNickname ++ d.comments addedNickname := by
  intro d statements
  have columns : addedNickname.columns ≠ [] := by simp [addedNickname]
  have single : addedNickname.commands.countP Command.definesColumns ≤ 1 := by decide
  have done : d.statements addedNickname = .ok statements := ok_of_toOption (by decide)
  obtain ⟨definitions, s, defined, shape, -, twice⟩ :=
    columns_defined_once_unless_added d columns single done
  exact ⟨columns, single, done, definitions, s, defined, shape, twice (by simp [addedNickname])⟩

end SchemaDialect
end SqlCompose
