import SqlCompose.Proofs.Schema.Kinds

/-!
# Statements behind a renaming

The keys that the flags of columns ask for are added behind all commands, to the table that the blueprint
names. If the last command renames the table away, they are put on a table that is no longer there
(`renamed_table_used_iff`).
-/
namespace SqlCompose

namespace Blueprint

/-- No flag of a column asks for a key. -/
def Unflagged (b : Blueprint) : Prop :=
  ∀ column ∈ b.columns, column.primary = false ∧ column.unique = false ∧ column.index = false

theorem columnIndexes_eq_nil {c : Column} :
    columnIndexes c = [] ↔ c.primary = false ∧ c.unique = false ∧ c.index = false := by
  unfold columnIndexes
  cases c.primary <;> cases c.unique <;> cases c.index <;> simp

theorem fluentIndexes_eq_nil {b : Blueprint} : b.fluentIndexes = [] ↔ b.Unflagged := by
  simp only [fluentIndexes, List.flatMap_eq_nil_iff, columnIndexes_eq_nil, Unflagged]

end Blueprint

namespace SchemaDialect

/-- The statement changes the blueprint's table, or puts an index on it. -/
inductive UsesTable (d : SchemaDialect) (b : Blueprint) : String → Prop
  | alter (change : String) : UsesTable d b (d.alter b change)
  | index (name columns : String) : UsesTable d b
      ("create index " ++ d.quoter.part name ++ " on " ++ d.table b ++ " (" ++ columns ++ ")")

variable {d : SchemaDialect} {b : Blueprint}

theorem usesTable_addUnique (b : Blueprint) (name : Option String) (columns : List String) :
    d.UsesTable b (d.addUnique b name columns) := by
  unfold addUnique addKey
  cases d.database <;> exact .alter _

theorem usesTable_addIndex (b : Blueprint) (name : Option String) (columns : List String) :
    d.UsesTable b (d.addIndex b name columns) := by
  unfold addIndex addKey
  cases d.database with
  | mySql => exact .alter _
  | postgres => exact .index _ _

/-- A key that a flag asks for is one statement, and it uses the table. -/
theorem command_columnIndexes {column : Column} {c : Command} (asked : c ∈ Blueprint.columnIndexes column) :
    ∃ s, d.command b c = .ok [s] ∧ d.UsesTable b s := by
  rcases Blueprint.eq_of_mem_columnIndexes asked with rfl | rfl | rfl
  · exact ⟨_, rfl, .alter _⟩
  · exact ⟨_, rfl, usesTable_addUnique b none _⟩
  · exact ⟨_, rfl, usesTable_addIndex b none _⟩

/-- The keys that the flags of all columns ask for use the table, one statement each. -/
theorem commands_fluentIndexes (d : SchemaDialect) (b : Blueprint) :
    ∃ after, d.commands b b.fluentIndexes = .ok after ∧ after.length = b.fluentIndexes.length ∧
      ∀ s ∈ after, d.UsesTable b s := by
  have each : ∀ c ∈ b.fluentIndexes, ∃ s, d.command b c = .ok [s] ∧ d.UsesTable b s := by
    intro c member
    obtain ⟨column, -, asked⟩ := List.mem_flatMap.mp member
    exact command_columnIndexes asked
  -- The induction is on any commands with one statement each, for a column may ask for several keys.
  generalize b.fluentIndexes = keys at each
  induction keys with
  | nil => exact ⟨[], rfl, rfl, by simp⟩
  | cons c keys ih =>
    obtain ⟨s, own, uses⟩ := each c (by simp)
    obtain ⟨after, rest, length, others⟩ := ih fun c member => each c (by simp [member])
    refine ⟨s :: after, ?_, by simp [length], List.forall_mem_cons.mpr ⟨uses, others⟩⟩
    rw [commands, own, rest]
    rfl

/-- Commands that succeed one after another have their statements one after another. -/
theorem commands_append {cs ds : List Command} {statements : List String}
    (done : d.commands b (cs ++ ds) = .ok statements) :
    ∃ first second, d.commands b cs = .ok first ∧ d.commands b ds = .ok second ∧
      statements = first ++ second := by
  induction cs generalizing statements with
  | nil => exact ⟨[], statements, rfl, done, rfl⟩
  | cons c cs ih =>
    obtain ⟨texts, own, done⟩ := bind_success done
    obtain ⟨rest, others, done⟩ := bind_success done
    cases done
    obtain ⟨first, second, front, back, rfl⟩ := ih others
    refine ⟨texts ++ first, second, ?_, back, (List.append_assoc ..).symm⟩
    rw [commands, own, front]
    rfl

/-- Behind the renaming that is the last command stand the keys that the flags of the columns ask for, one
statement each. They use the table by its old name. So nothing behind the renaming uses it if and only if no
column has such a flag. -/
theorem renamed_table_used_iff (d : SchemaDialect) {b : Blueprint} {front : List Command} {table : String}
    {statements : List String} (last : b.commands = front ++ [.rename table])
    (done : d.statements b = .ok statements) :
    ∃ before after, statements = before ++ d.renameTable b table :: after ∧
      d.commands b b.fluentIndexes = .ok after ∧ after.length = b.fluentIndexes.length ∧
      (∀ s ∈ after, d.UsesTable b s) ∧ ((∀ s ∈ after, ¬ d.UsesTable b s) ↔ b.Unflagged) := by
  obtain ⟨after, keys, length, uses⟩ := commands_fluentIndexes d b
  rw [SchemaDialect.statements, allCommands, last, ← List.append_assoc] at done
  obtain ⟨explicit, keyed, given, keys', rfl⟩ := commands_append done
  obtain ⟨before, renamed, -, last, rfl⟩ := commands_append given
  obtain rfl : [d.renameTable b table] = renamed := Except.ok.inj last
  obtain rfl : after = keyed := Except.ok.inj (keys.symm.trans keys')
  refine ⟨before, after, by simp, keys, length, uses, ?_⟩
  have unused : (∀ s ∈ after, ¬ d.UsesTable b s) ↔ after = [] := by
    constructor
    · intro never
      exact List.eq_nil_iff_forall_not_mem.mpr fun s member => never s member (uses s member)
    · rintro rfl
      simp
  rw [unused, ← Blueprint.fluentIndexes_eq_nil, ← List.length_eq_zero_iff, length, List.length_eq_zero_iff]

/-- A table with a unique column gets the key by its old name after it was renamed. -/
theorem renamed_table_used_iff_members :
    let d : SchemaDialect := ⟨.mySql, "", {}⟩
    let email : Column := { name := "email", type := .string 255, unique := true }
    let b : Blueprint := { table := "users", columns := [email], commands := [.rename "members"] }
    let key := "alter table `users` add unique `users_email_unique` (`email`)"
    d.statements b = .ok ["alter table `users` add `email` varchar(255) not null",
      "rename table `users` to `members`", key] ∧ d.UsesTable b key ∧ ¬ b.Unflagged := by
  intro d email b key
  have done : d.statements b = .ok ["alter table `users` add `email` varchar(255) not null",
      "rename table `users` to `members`", key] := ok_of_toOption (by decide)
  have keyed : d.commands b b.fluentIndexes = .ok [key] := ok_of_toOption (by decide)
  have last : b.commands = [] ++ [.rename "members"] := rfl
  obtain ⟨before, after, -, keys, -, uses, unused⟩ := renamed_table_used_iff d last done
  obtain rfl : [key] = after := Except.ok.inj (keyed.symm.trans keys)
  have used := uses key (by simp)
  exact ⟨done, used, fun unflagged => unused.mpr unflagged key (by simp) used⟩

end SchemaDialect
end SqlCompose
