import SqlCompose.Proofs.Outcome
import SqlCompose.Schema.Statement

/-!
# Kinds of statements

A statement on a table tells by its first words whether it defines columns, comments on one or adds the
primary key. Each command writes statements of its own kind, so what the statements of a blueprint do to
its table can be told command by command.
-/
namespace SqlCompose

/-- The text starts with the other one. -/
def Text.begins (front s : String) : Bool := front.toList.isPrefixOf s.toList

theorem Text.begins_append (front rest : String) : begins front (front ++ rest) = true := by
  simp [begins]

/-- Of two texts that differ, at most one is what a text starts with. -/
theorem Text.begins_apart {front other s : String} (starts : begins front s = true)
    (shorter : begins front other = false) (longer : begins other front = false) :
    begins other s = false := by
  unfold begins at *
  rw [Bool.eq_false_iff, ne_eq, List.isPrefixOf_iff_prefix] at *
  intro too
  rcases List.prefix_or_prefix_of_prefix starts too with one | one
  · exact shorter one
  · exact longer one

/-- A joined list starts with its first text. -/
theorem Text.joinWith_front (sep s : String) (texts : List String) :
    ∃ rest, joinWith sep (s :: texts) = s ++ rest := by
  cases texts with
  | nil => exact ⟨"", by simp⟩
  | cons t texts =>
    exact ⟨sep ++ joinWith sep (t :: texts), by rw [joinWith_cons_cons, String.append_assoc]⟩

inductive StatementKind where
  /-- Creates the table, or adds columns to it. -/
  | definition
  | comment
  | primaryKey
  | other
  deriving DecidableEq, Repr

/-- The kind of statement that a command is for. -/
def Command.kind : Command → StatementKind
  | .create _ | .add => .definition
  | .primary _ _ => .primaryKey
  | _ => .other

namespace SchemaDialect

/-- The kind of a statement on the blueprint's table. Where columns are added, a name stands behind the
keyword, which is a quoted text or a star. -/
def kind (d : SchemaDialect) (b : Blueprint) (s : String) : StatementKind :=
  if Text.begins "create table " s || Text.begins "create temporary table " s
      || Text.begins (d.alter b (d.addKeyword ++ " " ++ String.singleton d.quoter.quote)) s
      || Text.begins (d.alter b (d.addKeyword ++ " *")) s then .definition
  else if Text.begins "comment on column " s then .comment
  else if Text.begins (d.alter b "add primary key (") s then .primaryKey
  else .other

/-- The statements of a command, if it has some. -/
def written (d : SchemaDialect) (b : Blueprint) (c : Command) : List String :=
  (d.command b c).toOption.getD []

variable {d : SchemaDialect} {b : Blueprint}

theorem written_eq {c : Command} {texts : List String} (done : d.command b c = .ok texts) :
    d.written b c = texts := by
  rw [written, done]
  rfl

theorem mem_written {c : Command} {s : String} (member : s ∈ d.written b c) :
    ∃ texts, d.command b c = .ok texts ∧ s ∈ texts := by
  unfold written at member
  cases done : d.command b c with
  | error e =>
    rw [done] at member
    cases member
  | ok texts =>
    rw [done] at member
    exact ⟨texts, rfl, member⟩

/-- The statements of commands are those of each in turn, and each command has some. -/
theorem commands_written {cs : List Command} {statements : List String}
    (done : d.commands b cs = .ok statements) : statements = cs.flatMap (d.written b) ∧
      ∀ c ∈ cs, d.command b c = .ok (d.written b c) := by
  induction cs generalizing statements with
  | nil =>
    cases done
    exact ⟨rfl, by simp⟩
  | cons c cs ih =>
    obtain ⟨texts, first, done⟩ := bind_success done
    obtain ⟨rest, others, done⟩ := bind_success done
    cases done
    obtain ⟨rfl, each⟩ := ih others
    have own := written_eq first
    exact ⟨by rw [List.flatMap_cons, own], by simpa [own] using ⟨first, each⟩⟩

/-! ## Kinds of single statements -/

theorem begins_alter (b : Blueprint) (front change : String) :
    Text.begins (d.alter b front) (d.alter b change) = Text.begins front change := by
  unfold Text.begins
  rw [Bool.eq_iff_iff, List.isPrefixOf_iff_prefix, List.isPrefixOf_iff_prefix]
  simp only [alter, String.toList_append, List.append_assoc, List.prefix_append_right_inj]

/-- The kind of a change of the table is told by the change. -/
theorem kind_alter (b : Blueprint) (change : String) : d.kind b (d.alter b change) =
    if Text.begins (d.addKeyword ++ " " ++ String.singleton d.quoter.quote) change
        || Text.begins (d.addKeyword ++ " *") change then .definition
    else if Text.begins "add primary key (" change then .primaryKey
    else .other := by
  have created : Text.begins "create table " (d.alter b change) = false := by
    simp [Text.begins, alter, List.isPrefixOf]
  have temporary : Text.begins "create temporary table " (d.alter b change) = false := by
    simp [Text.begins, alter, List.isPrefixOf]
  have commented : Text.begins "comment on column " (d.alter b change) = false := by
    simp [Text.begins, alter, List.isPrefixOf]
  simp only [kind, begins_alter, created, temporary, commented, Bool.false_or]
  rfl

theorem kind_unaltered (b : Blueprint) {s : String} (other : Text.begins "alter" s = false) :
    d.kind b s =
      if Text.begins "create table " s || Text.begins "create temporary table " s then .definition
      else if Text.begins "comment on column " s then .comment
      else .other := by
  have never (change : String) : Text.begins (d.alter b change) s = false := by
    unfold Text.begins at *
    rw [Bool.eq_false_iff, ne_eq, List.isPrefixOf_iff_prefix] at *
    intro front
    have word : "alter".toList <+: (d.alter b change).toList := by simp [alter]
    exact other (word.trans front)
  simp only [kind, never, Bool.or_false]
  rfl

theorem kind_comment {s : String} (member : s ∈ d.comments b) : d.kind b s = .comment := by
  unfold comments at member
  cases database : d.database with
  | mySql =>
    rw [database] at member
    cases member
  | postgres =>
    rw [database] at member
    simp only [List.mem_filterMap] at member
    obtain ⟨column, -, given⟩ := member
    obtain ⟨comment, -, rfl⟩ := Option.map_eq_some_iff.mp given
    unfold commentText
    rw [kind_unaltered b (by simp [Text.begins, List.isPrefixOf])]
    simp [Text.begins]

theorem kind_addPrimary (b : Blueprint) (columns : List String) :
    d.kind b (d.addPrimary b columns) = .primaryKey := by
  rw [addPrimary, addKey, kind_alter]
  cases database : d.database <;> simp [Text.begins, addKeyword, quoter, database]

theorem kind_addUnique (b : Blueprint) (name : Option String) (columns : List String) :
    d.kind b (d.addUnique b name columns) = .other := by
  unfold addUnique addKey
  cases database : d.database <;>
  · dsimp only
    rw [kind_alter]
    simp [Text.begins, addKeyword, quoter, database]

theorem kind_addIndex (b : Blueprint) (name : Option String) (columns : List String) :
    d.kind b (d.addIndex b name columns) = .other := by
  unfold addIndex addKey
  cases database : d.database with
  | mySql =>
    dsimp only
    rw [kind_alter]
    simp [Text.begins, addKeyword, quoter, database]
  | postgres =>
    dsimp only
    rw [kind_unaltered b (by simp [Text.begins, List.isPrefixOf])]
    simp [Text.begins]

theorem kind_addForeign (b : Blueprint) (key : ForeignKey) :
    d.kind b (d.addForeign b key) = .other := by
  rw [addForeign, kind_alter]
  cases database : d.database <;> simp [Text.begins, addKeyword, quoter, database]

theorem kind_drop {s : String} (drops : Text.begins "drop" s = true) : d.kind b s = .other := by
  have apart {other : String} (shorter : Text.begins "drop" other = false)
      (longer : Text.begins other "drop" = false) : Text.begins other s = false :=
    Text.begins_apart drops shorter longer
  rw [kind_unaltered b (apart rfl rfl), apart rfl rfl, apart rfl rfl, apart rfl rfl]
  rfl

theorem kind_alter_drop {change : String} (drops : Text.begins "drop" change = true) :
    d.kind b (d.alter b change) = .other := by
  have apart {other : String} (shorter : Text.begins "drop" other = false)
      (longer : Text.begins other "drop" = false) : Text.begins other change = false :=
    Text.begins_apart drops shorter longer
  rw [kind_alter]
  cases database : d.database <;>
  · simp only [addKeyword, quoter, database]
    rw [apart rfl rfl, apart rfl rfl, apart rfl rfl]
    rfl

theorem kind_dropColumns {columns : List String} {s : String} (member : s ∈ d.dropColumns b columns) :
    d.kind b s = .other := by
  cases columns with
  | nil => cases member
  | cons column columns =>
    obtain rfl := List.mem_singleton.mp member
    apply kind_alter_drop
    rw [List.map_cons, prefixEach, List.map_cons]
    obtain ⟨rest, starts⟩ := Text.joinWith_front ", " (d.dropKeyword ++ " " ++ d.quoter.columnName column)
      ((columns.map d.quoter.columnName).map fun s => d.dropKeyword ++ " " ++ s)
    rw [starts]
    cases database : d.database <;> simp [Text.begins, dropKeyword, database]

theorem kind_renameTable (b : Blueprint) (table : String) :
    d.kind b (d.renameTable b table) = .other := by
  unfold renameTable
  cases database : d.database with
  | mySql =>
    dsimp only
    rw [kind_unaltered b (by simp [Text.begins, List.isPrefixOf])]
    simp [Text.begins]
  | postgres =>
    dsimp only
    rw [kind_alter]
    simp [Text.begins, addKeyword, quoter, database]

theorem kind_renameColumn {old new : String} {definition : Option Column} {s : String}
    (done : d.renameColumn b old new definition = .ok s) : d.kind b s = .other := by
  unfold renameColumn at done
  cases database : d.database with
  | mySql =>
    rw [database] at done
    cases definition with
    | none => cases done
    | some column =>
      obtain ⟨text, -, same⟩ := bind_success done
      cases same
      rw [kind_alter]
      simp [Text.begins, addKeyword, quoter, database]
  | postgres =>
    rw [database] at done
    cases done
    rw [kind_alter]
    simp [Text.begins, addKeyword, quoter, database]

/-! ## Kinds of commands -/

/-- What a command writes that neither defines columns nor adds the primary key. -/
theorem kind_written {c : Command} (other : c.kind = .other) :
    ∀ s ∈ d.written b c, d.kind b s = .other := by
  intro s member
  obtain ⟨texts, done, member⟩ := mem_written member
  have single {text : String} (done : Except.ok [text] = (.ok texts : Except CompileError _))
      (known : d.kind b text = .other) : d.kind b s = .other := by
    cases done
    rw [List.mem_singleton.mp member]
    exact known
  cases c with
  | create ifNotExists => cases other
  | add => cases other
  | primary name columns => cases other
  | drop => exact single done (kind_drop (by simp [Text.begins]))
  | dropIfExists => exact single done (kind_drop (by simp [Text.begins]))
  | rename table => exact single done (kind_renameTable b table)
  | dropColumn columns =>
    cases done
    exact kind_dropColumns member
  | renameColumn old new definition =>
    obtain ⟨text, renamed, done⟩ := bind_success done
    exact single done (kind_renameColumn renamed)
  | unique name columns => exact single done (kind_addUnique b name columns)
  | index name columns => exact single done (kind_addIndex b name columns)
  | foreign key => exact single done (kind_addForeign b key)
  | dropPrimary name =>
    refine single done ?_
    unfold dropPrimary
    cases d.database with
    | mySql => exact kind_alter_drop rfl
    | postgres => cases name <;> exact kind_alter_drop (by simp [Text.begins])
  | dropUnique name =>
    refine single done ?_
    unfold dropUnique
    cases d.database <;> exact kind_alter_drop (by simp [Text.begins])
  | dropIndex name =>
    refine single done ?_
    unfold dropIndex
    cases d.database with
    | mySql => exact kind_alter_drop (by simp [Text.begins])
    | postgres => exact kind_drop (by simp [Text.begins])
  | dropForeign name =>
    refine single done ?_
    unfold dropForeign
    cases d.database <;> exact kind_alter_drop (by simp [Text.begins])

end SchemaDialect
end SqlCompose
