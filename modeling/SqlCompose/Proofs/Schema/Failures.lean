import SqlCompose.Proofs.Outcome
import SqlCompose.Schema.Statement

/-!
# Blueprints that cannot be written

A blueprint has no statements for one of three causes: bytes as a default, a word that would have to be
quoted in a place where it stands bare, and a renamed column without the definition that its database
asks for. The first command that meets one of them stops the rest (`statements_fail_iff`).
-/
namespace SqlCompose

/-- ASCII letters, digits and underscores, at least one. -/
def BareWord (s : String) : Prop := s ≠ "" ∧ ∀ c ∈ s.toList, c.isAlphanum = true ∨ c = '_'

/-- A word is given that is not bare. -/
def StrayWord (word : Option String) : Prop := ∃ s, word = some s ∧ ¬ BareWord s

/-- The default is bytes, and the current time does not take its place. -/
def Column.BytesDefault (c : Column) : Prop :=
  (∃ content, c.default = some (.value (.bytes content))) ∧
    ¬ (c.useCurrent = true ∧ c.type.isTimestamp = true)

/-- A setting that cannot be written. -/
def CompileError.IsSetting (e : CompileError) : Prop :=
  ∃ setting value, e = .invalidSetting setting value

/-- What stops a command: a missing definition, for the column as it was named before, or a setting
that cannot be written. -/
def Command.Cause : Command → CompileError → Prop
  | .renameColumn old _ none, e => e = .missingDefinition old
  | _, e => e.IsSetting

namespace SchemaDialect

variable {d : SchemaDialect}

/-! ## Words -/

theorem bareWord_fails (setting : Setting) (s : String) :
    FailsWhen (¬ BareWord s) CompileError.IsSetting (bareWord setting s) := by
  have bare_iff : BareWord s ↔ s ≠ "" ∧ s.toList.all (fun c => c.isAlphanum || c == '_') := by
    simp [BareWord]
  unfold bareWord
  split
  · next bare => exact .ok fun stray => stray (bare_iff.mpr bare)
  · next stray => exact .error (mt bare_iff.mp stray) ⟨setting, s, rfl⟩

theorem wordText_fails (keyword : String) (setting : Setting) (word : Option String) :
    FailsWhen (StrayWord word) CompileError.IsSetting (wordText keyword setting word) := by
  cases word with
  | none => exact .ok (by simp [StrayWord])
  | some s => exact (bareWord_fails setting s).map.congr (by simp [StrayWord])

/-! ## Columns -/

theorem defaultText_fails (o : Operand) :
    FailsWhen (∃ content, o = .value (.bytes content)) CompileError.IsSetting (d.defaultText o) := by
  cases o with
  | raw sql => exact .ok (by simp)
  | value v =>
    cases v with
    | bytes content => exact .error ⟨content, rfl⟩ ⟨_, _, rfl⟩
    | _ => exact .ok (by simp)

theorem defaultModifier_fails (c : Column) :
    FailsWhen c.BytesDefault CompileError.IsSetting (d.defaultModifier c) := by
  unfold defaultModifier
  split
  · next masked => exact .ok fun bytes => bytes.2 masked
  · next unmasked =>
    split
    · next operand given =>
      exact (defaultText_fails operand).map.congr (by simp [Column.BytesDefault, given, unmasked])
    · next none => exact .ok (by simp [Column.BytesDefault, none])

/-- Bare words stand in the modifiers of MySQL only. -/
def UnwritableModifier (d : SchemaDialect) (c : Column) : Modifier → Prop
  | .default => c.BytesDefault
  | .charset => d.database = .mySql ∧ StrayWord c.charset
  | .collate => d.database = .mySql ∧ StrayWord c.collation
  | _ => False

theorem modifierText_fails (c : Column) (m : Modifier) :
    FailsWhen (d.UnwritableModifier c m) CompileError.IsSetting (d.modifierText c m) := by
  unfold modifierText
  cases database : d.database with
  | mySql =>
    cases m with
    | charset => exact (wordText_fails _ _ c.charset).congr (by simp [UnwritableModifier, database])
    | collate => exact (wordText_fails _ _ c.collation).congr (by simp [UnwritableModifier, database])
    | default => exact defaultModifier_fails c
    | _ => exact .never _
  | postgres =>
    cases m with
    | charset => exact (FailsWhen.never _).congr (by simp [UnwritableModifier, database])
    | collate => exact (FailsWhen.never _).congr (by simp [UnwritableModifier, database])
    | default => exact defaultModifier_fails c
    | _ => exact .never _

theorem modifierTexts_fails (c : Column) (ms : List Modifier) :
    FailsWhen (∃ m ∈ ms, d.UnwritableModifier c m) CompileError.IsSetting (d.modifierTexts c ms) := by
  induction ms with
  | nil => exact .ok (by simp)
  | cons m ms ih =>
    exact ((modifierText_fails c m).bind fun text => ih.map).congr (by simp)

/-- A default without a text, or in MySQL a charset or collation that is not a bare word. -/
def UnwritableColumn (d : SchemaDialect) (c : Column) : Prop :=
  match d.database with
  | .mySql => c.BytesDefault ∨ StrayWord c.charset ∨ StrayWord c.collation
  | .postgres => c.BytesDefault

theorem columnText_fails (c : Column) :
    FailsWhen (d.UnwritableColumn c) CompileError.IsSetting (d.columnText c) := by
  apply (modifierTexts_fails c d.modifiers).map.congr
  unfold modifiers UnwritableColumn
  cases database : d.database with
  | mySql =>
    simp only [UnwritableModifier, database, List.mem_cons, List.not_mem_nil, or_false,
      exists_eq_or_imp, exists_eq_left, false_or, true_and]
    rw [← or_assoc, or_comm]
  | postgres => simp [UnwritableModifier, database]

theorem columnTexts_fails (columns : List Column) :
    FailsWhen (∃ c ∈ columns, d.UnwritableColumn c) CompileError.IsSetting (d.columnTexts columns) := by
  induction columns with
  | nil => exact .ok (by simp)
  | cons c columns ih => exact ((columnText_fails c).bind fun text => ih.map).congr (by simp)

/-! ## Commands -/

/-- An option of a table to be created is not a bare word; its own option comes before a configured
one. -/
def UnwritableOptions (d : SchemaDialect) (b : Blueprint) : Prop :=
  d.database = .mySql ∧ (StrayWord (b.charset.or d.options.charset) ∨
    StrayWord (b.collation.or d.options.collation) ∨ StrayWord (b.engine.or d.options.engine))

theorem createOptions_fails (b : Blueprint) :
    FailsWhen (d.UnwritableOptions b) CompileError.IsSetting (d.createOptions b) := by
  unfold createOptions
  cases database : d.database with
  | postgres => exact .ok (by simp [UnwritableOptions, database])
  | mySql =>
    have each := (wordText_fails "default character set " .charset (b.charset.or d.options.charset)).bind
      fun charset => (wordText_fails "collate " .collation (b.collation.or d.options.collation)).bind
      fun collation => (wordText_fails "engine = " .engine (b.engine.or d.options.engine)).map
        (f := fun engine => Text.joinWith " " ([charset, collation, engine].filter (· ≠ "")))
    exact each.congr (by simp [UnwritableOptions, database])

theorem create_fails (b : Blueprint) (ifNotExists : Bool) :
    FailsWhen ((∃ c ∈ b.columns, d.UnwritableColumn c) ∨ d.UnwritableOptions b)
      CompileError.IsSetting (d.create b ifNotExists) :=
  (columnTexts_fails b.columns).bind fun _ => (createOptions_fails b).map

theorem add_fails (b : Blueprint) :
    FailsWhen (∃ c ∈ b.columns, d.UnwritableColumn c) CompileError.IsSetting (d.add b) := by
  unfold add
  split
  · next none => exact .ok (by simp [none])
  · exact (columnTexts_fails b.columns).map

/-- The command has no statements. -/
def Unwritable (d : SchemaDialect) (b : Blueprint) : Command → Prop
  | .create _ => (∃ c ∈ b.columns, d.UnwritableColumn c) ∨ d.UnwritableOptions b
  | .add => ∃ c ∈ b.columns, d.UnwritableColumn c
  | .renameColumn _ _ none => d.database = .mySql
  | .renameColumn _ _ (some c) => d.database = .mySql ∧ d.UnwritableColumn c
  | _ => False

theorem renameColumn_fails (b : Blueprint) (old new : String) (definition : Option Column) :
    FailsWhen (d.Unwritable b (.renameColumn old new definition))
      (Command.renameColumn old new definition).Cause (d.renameColumn b old new definition) := by
  unfold renameColumn
  cases database : d.database with
  | mySql =>
    cases definition with
    | none => exact .error database rfl
    | some c =>
      have renamed : d.UnwritableColumn { c with name := new } ↔ d.UnwritableColumn c := Iff.rfl
      exact (columnText_fails { c with name := new }).map.congr (by simp [Unwritable, database, renamed])
  | postgres => cases definition <;> exact .ok (by simp [Unwritable, database])

theorem command_fails (b : Blueprint) (c : Command) :
    FailsWhen (d.Unwritable b c) c.Cause (d.command b c) := by
  cases c with
  | create ifNotExists => exact create_fails b ifNotExists
  | add => exact add_fails b
  | renameColumn old new definition => exact (renameColumn_fails b old new definition).map
  | _ => exact .never _

/-! ## Blueprints -/

/-- Commands fail with the error of the first that does. -/
theorem commands_error_iff (b : Blueprint) (cs : List Command) (e : CompileError) :
    d.commands b cs = .error e ↔ ∃ before c after, cs = before ++ c :: after ∧
      (∀ other ∈ before, ∃ statements, d.command b other = .ok statements) ∧
      d.command b c = .error e := by
  have step (c : Command) (cs : List Command) : d.commands b (c :: cs) = .error e ↔
      d.command b c = .error e ∨
        (∃ statements, d.command b c = .ok statements) ∧ d.commands b cs = .error e := by
    have rest (first : List String) :
        (do return first ++ (← d.commands b cs)) = Except.error e ↔ d.commands b cs = .error e :=
      bind_error_iff.trans (by simp [pure, Except.pure])
    exact bind_error_iff.trans (by simp only [rest, exists_and_right])
  constructor
  · intro failed
    induction cs with
    | nil => cases failed
    | cons c cs ih =>
      rcases (step c cs).mp failed with failed | ⟨fine, failed⟩
      · exact ⟨[], c, cs, rfl, by simp, failed⟩
      · obtain ⟨before, stopped, after, rfl, others, failed⟩ := ih failed
        exact ⟨c :: before, stopped, after, rfl, by simpa using ⟨fine, others⟩, failed⟩
  · rintro ⟨before, c, after, rfl, fine, failed⟩
    induction before with
    | nil => exact (step c after).mpr (.inl failed)
    | cons other before ih =>
      obtain ⟨first, others⟩ := List.forall_mem_cons.mp fine
      exact (step other _).mpr (.inr ⟨first, ih others⟩)

theorem commands_fails (b : Blueprint) (cs : List Command) :
    FailsWhen (∃ c ∈ cs, d.Unwritable b c) (fun _ => True) (d.commands b cs) := by
  induction cs with
  | nil => exact .ok (by simp)
  | cons c cs ih => exact ((command_fails b c).anyhow.bind fun statements => ih.map).congr (by simp)

/-- The columns of a blueprint are written by the command that creates its table, or else by one that
adds them. -/
theorem unwritable_allCommands (b : Blueprint) :
    (∃ c ∈ allCommands b, d.Unwritable b c) ↔
      (∃ c ∈ b.columns, d.UnwritableColumn c) ∨ ∃ c ∈ b.commands, d.Unwritable b c := by
  constructor
  · rintro ⟨c, member, unwritable⟩
    rcases List.mem_append.mp member with front | index
    · rcases List.mem_append.mp front with added | own
      · split at added
        · cases added
        · obtain rfl := List.mem_singleton.mp added
          exact .inl unwritable
      · exact .inr ⟨c, own, unwritable⟩
    · obtain ⟨column, -, asked⟩ := List.mem_flatMap.mp index
      rcases Blueprint.eq_of_mem_columnIndexes asked with rfl | rfl | rfl <;> cases unwritable
  · rintro (⟨c, member, unwritable⟩ | ⟨c, own, unwritable⟩)
    · unfold allCommands
      by_cases creating : b.creating = true
      · obtain ⟨command, own, creates⟩ := List.any_eq_true.mp creating
        refine ⟨command, by simp [own], ?_⟩
        cases command with
        | create ifNotExists => exact .inl ⟨c, member, unwritable⟩
        | _ => cases creates
      · have columns : b.columns.isEmpty = false := by
          cases given : b.columns with
          | nil => simp [given] at member
          | cons _ _ => rfl
        exact ⟨.add, by simp [columns, creating], c, member, unwritable⟩
    · exact ⟨c, by simp [allCommands, own], unwritable⟩

/-- In MySQL a command may fail by itself, for a renamed column or an option of the table. -/
theorem unwritable_iff (b : Blueprint) (c : Command) (fine : ∀ c ∈ b.columns, ¬ d.UnwritableColumn c) :
    d.Unwritable b c ↔ d.database = .mySql ∧ match c with
      | .create _ => d.UnwritableOptions b
      | .renameColumn _ _ definition => ∀ c, definition = some c → d.UnwritableColumn c
      | _ => False := by
  have columns : ¬ ∃ c ∈ b.columns, d.UnwritableColumn c := by simpa using fine
  cases c with
  | create ifNotExists => simp [Unwritable, columns, UnwritableOptions]
  | renameColumn old new definition => cases definition <;> simp [Unwritable]
  | _ => simp [Unwritable, columns]

theorem unwritable_blueprint_iff (b : Blueprint) :
    (∃ c ∈ allCommands b, d.Unwritable b c) ↔
      (∃ c ∈ b.columns, d.UnwritableColumn c) ∨ d.database = .mySql ∧
        ((∃ old new c, .renameColumn old new (some c) ∈ b.commands ∧ d.UnwritableColumn c) ∨
        (∃ old new, .renameColumn old new none ∈ b.commands) ∨
        (∃ ifNotExists, .create ifNotExists ∈ b.commands) ∧ d.UnwritableOptions b) := by
  rw [unwritable_allCommands]
  by_cases fine : ∀ c ∈ b.columns, ¬ d.UnwritableColumn c
  · have columns : ¬ ∃ c ∈ b.columns, d.UnwritableColumn c := by simpa using fine
    simp only [columns, false_or, unwritable_iff b _ fine]
    constructor
    · rintro ⟨c, own, database, stops⟩
      refine ⟨database, ?_⟩
      cases c with
      | create ifNotExists => exact .inr (.inr ⟨⟨ifNotExists, own⟩, stops⟩)
      | renameColumn old new definition =>
        cases definition with
        | none => exact .inr (.inl ⟨old, new, own⟩)
        | some c => exact .inl ⟨old, new, c, own, stops c rfl⟩
      | _ => cases stops
    · rintro ⟨database, ⟨old, new, c, own, stops⟩ | ⟨old, new, own⟩ | ⟨⟨ifNotExists, own⟩, stops⟩⟩
      · exact ⟨_, own, database, by simpa using stops⟩
      · exact ⟨_, own, database, by simp⟩
      · exact ⟨_, own, database, stops⟩
  · have columns : ∃ c ∈ b.columns, d.UnwritableColumn c := by simpa using fine
    simp only [columns, true_or]

/-- A blueprint has no statements for PostgreSQL just when a column has bytes as a default; for MySQL
also for a charset, collation or engine that is not a bare word, and for a renamed column without a
definition. The error is that of the first command that fails. -/
theorem statements_fail_iff (tablePrefix : String) (options : TableOptions) (b : Blueprint) :
    ((∃ e, statements ⟨.postgres, tablePrefix, options⟩ b = .error e) ↔
      ∃ c ∈ b.columns, c.BytesDefault) ∧
    ((∃ e, statements ⟨.mySql, tablePrefix, options⟩ b = .error e) ↔
      (∃ c, (c ∈ b.columns ∨ ∃ old new, .renameColumn old new (some c) ∈ b.commands) ∧
        (c.BytesDefault ∨ StrayWord c.charset ∨ StrayWord c.collation)) ∨
      (∃ old new, .renameColumn old new none ∈ b.commands) ∨
      (∃ ifNotExists, .create ifNotExists ∈ b.commands) ∧
        (StrayWord (b.charset.or options.charset) ∨ StrayWord (b.collation.or options.collation) ∨
          StrayWord (b.engine.or options.engine))) ∧
    ∀ database e, statements ⟨database, tablePrefix, options⟩ b = .error e ↔
      ∃ before c after, allCommands b = before ++ c :: after ∧
        (∀ other ∈ before,
          ∃ texts, command ⟨database, tablePrefix, options⟩ b other = .ok texts) ∧
        command ⟨database, tablePrefix, options⟩ b c = .error e ∧ c.Cause e := by
  refine ⟨?_, ?_, fun database e => ?_⟩
  · refine (commands_fails b _).fails_iff.trans ((unwritable_blueprint_iff b).trans ?_)
    simp [UnwritableColumn]
  · refine (commands_fails b _).fails_iff.trans ((unwritable_blueprint_iff b).trans ?_)
    simp only [UnwritableColumn, UnwritableOptions, true_and]
    constructor
    · rintro (⟨c, own, stops⟩ | ⟨old, new, c, own, stops⟩ | missing | stray)
      · exact .inl ⟨c, .inl own, stops⟩
      · exact .inl ⟨c, .inr ⟨old, new, own⟩, stops⟩
      · exact .inr (.inl missing)
      · exact .inr (.inr stray)
    · rintro (⟨c, own | ⟨old, new, own⟩, stops⟩ | missing | stray)
      · exact .inl ⟨c, own, stops⟩
      · exact .inr (.inl ⟨old, new, c, own, stops⟩)
      · exact .inr (.inr (.inl missing))
      · exact .inr (.inr (.inr stray))
  · refine (commands_error_iff b _ e).trans ?_
    constructor
    · rintro ⟨before, c, after, split, fine, failed⟩
      exact ⟨before, c, after, split, fine, failed, (failed ▸ command_fails b c).cause⟩
    · rintro ⟨before, c, after, split, fine, failed, -⟩
      exact ⟨before, c, after, split, fine, failed⟩

/-- The missing definition is met before the engine, which is not looked at any more. -/
example : statements ⟨.mySql, "", { engine := some "my isam" }⟩
    { table := "t", commands := [.drop, .renameColumn "a" "b" none, .create false] } =
      .error (.missingDefinition "a") := by
  rfl

end SchemaDialect
end SqlCompose
