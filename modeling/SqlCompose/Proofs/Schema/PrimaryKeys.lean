import Mathlib.Data.List.Forall2
import SqlCompose.Proofs.Schema.Columns
import SqlCompose.Proofs.Schema.Definitions

/-!
# How often a primary key is declared

A column that counts up declares the primary key in its definition, and a column with the flag has a key
added for it. Neither looks at the other, so a column with both gets two primary keys
(`primaryKeys_declared`).
-/
namespace SqlCompose

/-- The column is to be the primary key, by its flag or because it counts up. -/
def Column.isKey (column : Column) : Bool := column.primary || SchemaDialect.increments column

/-- The column is to be the primary key for both reasons. -/
def Column.isKeyTwice (column : Column) : Bool := column.primary && SchemaDialect.increments column

/-- The command adds no key, and does not spell columns out but to create the table. -/
def Command.keepsKeys : Command → Bool
  | .primary _ _ | .add | .renameColumn _ _ _ => false
  | _ => true

namespace SchemaDialect

/-- The trusted SQL of a default ends its quotes and declares no primary key itself. -/
def QuietDefault (d : SchemaDialect) (column : Column) : Prop :=
  ∀ sql, column.default = some (.raw sql) → d.Spells 0 sql.text

/-- The primary keys that a statement on the table declares: those in the definitions of columns, or one
of its own. -/
def primaryKeys (d : SchemaDialect) (b : Blueprint) (s : String) : Nat :=
  match d.kind b s with
  | .definition => occurrences keyPhrase (d.quotation.outline s)
  | .primaryKey => 1
  | .comment | .other => 0

variable {d : SchemaDialect} {b : Blueprint} {column : Column}

/-! ## Definitions -/

theorem keyless_composable : d.Composable d.Keyless where
  append left right := left.append right
  fixed known words := keyless_fixed known words
  number n := by
    obtain ⟨closed, shown⟩ := outline_chars (d := d) (harmless_number n)
    apply keyless_of_not_mem closed
    rw [shown, List.mem_map]
    rintro ⟨c, member, same⟩
    cases same
    exact absurd (Text.isDigit_of_mem_toString member) (by decide)
  part s := keyless_of_not_mem (closed_part s) (by rw [outline_part]; split <;> simp)
  literal s := by
    obtain ⟨closed, shown⟩ := literal_read (d := d) s
    exact keyless_of_not_mem closed (by simp [shown])

theorem spells_bareWord (setting : Setting) (s : String) : Yields (d.Spells 0) (bareWord setting s) := by
  apply (harmless_bareWord setting s).mono
  intro word known
  obtain ⟨closed, shown⟩ := outline_chars (d := d) fun c member => (known c member).1
  refine ⟨closed, occurrences_eq_zero ?_⟩
  rw [shown]
  intro spelled
  have blank : some ' ' ∈ keyPhrase := by decide
  obtain ⟨c, member, same⟩ := List.mem_map.mp (spelled.subset blank)
  cases same
  exact (known ' ' member).2 rfl

theorem spells_default (quiet : d.QuietDefault column) {operand : Operand}
    (given : column.default = some operand) : Yields (d.Spells 0) (d.defaultText operand) := by
  have truth (b : Bool) : d.Keyless (d.boolLiteral b) := by
    unfold boolLiteral
    cases d.database <;> cases b <;> exact keyless_fixed rfl rfl
  unfold defaultText
  split
  · next sql => exact .ok (quiet sql given)
  · exact .ok (truth _).spells
  · exact .ok (keyless_fixed rfl rfl).spells
  · split
    · exact .ok (keyless_composable.literal _).spells
    · exact .error _

/-! ## Modifiers -/

theorem adds_defaultModifier (quiet : d.QuietDefault column) :
    Yields (d.Adds 0) (d.defaultModifier column) := by
  unfold defaultModifier
  split
  · exact .ok (adds_fixed rfl)
  · split
    · next operand given =>
      apply (spells_default quiet given).bind
      intro text spelled
      exact .ok (adds_behind rfl spelled)
    · exact .ok adds_empty

theorem adds_partText {keyword : List Char} (part : Option String) {write : String → String}
    (written : ∀ s, d.Keyless (write s)) (known : parting 0 keyword = true) :
    d.Adds 0 (partText (String.ofList keyword) part write) := by
  cases part with
  | none => exact adds_empty
  | some s => exact adds_behind known (written s).spells

theorem adds_wordText {keyword : List Char} (setting : Setting) (word : Option String)
    (known : parting 0 keyword = true) :
    Yields (d.Adds 0) (wordText (String.ofList keyword) setting word) := by
  cases word with
  | none => exact .ok adds_empty
  | some s =>
    apply (spells_bareWord setting s).bind
    intro text spelled
    exact .ok (adds_behind known spelled)

/-- The primary keys that a modifier of a column declares. -/
def modifierKeys (column : Column) : Modifier → Nat
  | .increment => (increments column).toNat
  | _ => 0

theorem adds_modifier (quiet : d.QuietDefault column) (m : Modifier) :
    Yields (d.Adds (modifierKeys column m)) (d.modifierText column m) := by
  have declared {cs : List Char} (known : parting 1 cs = true) :
      d.Adds (increments column).toNat (if increments column then String.ofList cs else "") := by
    cases increments column
    · exact adds_empty
    · exact adds_fixed known
  have nullable : d.Adds 0 (nullableText column) := of_either _ (adds_fixed rfl) (adds_fixed rfl)
  unfold modifierText
  cases d.database with
  | mySql =>
    cases m with
    | unsigned => exact .ok (of_either _ (adds_fixed rfl) adds_empty)
    | charset => exact adds_wordText _ _ rfl
    | collate => exact adds_wordText _ _ rfl
    | nullable => exact .ok nullable
    | default => exact adds_defaultModifier quiet
    | increment => exact .ok (declared rfl)
    | comment => exact .ok (adds_partText _ keyless_composable.literal rfl)
    | after => exact .ok (adds_partText _ keyless_composable.part rfl)
    | first => exact .ok (of_either _ (adds_fixed rfl) adds_empty)
  | postgres =>
    cases m with
    | collate => exact .ok (adds_partText _ keyless_composable.part rfl)
    | increment => exact .ok (declared rfl)
    | nullable => exact .ok nullable
    | default => exact adds_defaultModifier quiet
    | _ => exact .ok adds_empty

theorem adds_modifiers (quiet : d.QuietDefault column) (ms : List Modifier) :
    Yields (d.Adds (ms.map (modifierKeys column)).sum) (d.modifierTexts column ms) := by
  induction ms with
  | nil => exact .ok adds_empty
  | cons m ms ih =>
    apply (adds_modifier quiet m).bind
    intro text first
    apply ih.bind
    intro texts rest
    exact .ok (first.append rest)

/-- A definition declares a primary key just when its column counts up. -/
theorem spells_column (quiet : d.QuietDefault column) :
    Yields (d.Spells (increments column).toNat) (d.columnText column) := by
  have each : (d.modifiers.map (modifierKeys column)).sum = (increments column).toNat := by
    unfold modifiers
    cases d.database <;> simp [modifierKeys]
  apply (adds_modifiers quiet d.modifiers).bind
  intro modifiers adds
  have named : d.Keyless (d.quoter.part column.name ++ " ") :=
    (keyless_composable.part column.name).append (keyless_fixed rfl rfl)
  have typed : d.Spells 0 (d.quoter.part column.name ++ " " ++ d.typeText column) :=
    (named.append (keyless_composable.type column)).spells
  rw [each] at adds
  exact .ok (by simpa using adds _ _ typed)

theorem spells_columns {columns : List Column} (quiet : ∀ c ∈ columns, d.QuietDefault c) :
    Yields (List.Forall₂ d.Spells (columns.map fun c => (increments c).toNat)) (d.columnTexts columns) := by
  induction columns with
  | nil => exact .ok .nil
  | cons column columns ih =>
    apply (spells_column (quiet column (by simp))).bind
    intro text first
    apply (ih fun c member => quiet c (by simp [member])).bind
    intro texts rest
    exact .ok (.cons first rest)

/-! ## Statements -/

theorem adds_option {keyword : List Char} (setting : Setting) (word : Option String)
    (known : parting 0 (' ' :: keyword) = true) :
    Yields (fun s => s ≠ "" → d.Adds 0 (" " ++ s)) (wordText (String.ofList keyword) setting word) := by
  cases word with
  | none => exact .ok (absurd rfl)
  | some s =>
    apply (spells_bareWord setting s).bind
    intro text spelled
    refine .ok fun _ => ?_
    have whole : " " ++ (String.ofList keyword ++ text) = String.ofList (' ' :: keyword) ++ text := by
      simp [← String.toList_inj]
    rw [whole]
    exact adds_behind known spelled

/-- Texts that add nothing behind a blank add nothing when blanks are put between them. -/
theorem adds_spaced {texts : List String} (each : ∀ s ∈ texts, d.Adds 0 (" " ++ s))
    (some : texts ≠ []) : d.Adds 0 (" " ++ Text.joinWith " " texts) := by
  induction texts with
  | nil => exact absurd rfl some
  | cons s texts ih =>
    have first := each s (by simp)
    cases texts with
    | nil => exact first
    | cons t texts =>
      rw [Text.joinWith_cons_cons, String.append_assoc, ← String.append_assoc]
      exact first.append (ih (fun u member => each u (by simp [member])) (by simp))

theorem adds_options (b : Blueprint) :
    Yields (fun options => d.Adds 0 (if options = "" then "" else " " ++ options)) (d.createOptions b) := by
  unfold createOptions
  cases d.database with
  | postgres => exact .ok adds_empty
  | mySql =>
    apply (adds_option _ _ rfl).bind
    intro charset first
    apply (adds_option _ _ rfl).bind
    intro collation second
    apply (adds_option _ _ rfl).bind
    intro engine third
    refine .ok ?_
    split
    · exact adds_empty
    · next given =>
      refine adds_spaced (fun s member => ?_) fun nothing => given (by rw [nothing]; rfl)
      obtain ⟨member, shown⟩ := List.mem_filter.mp member
      have shown : s ≠ "" := by simpa using shown
      simp only [List.mem_cons, List.not_mem_nil, or_false] at member
      rcases member with rfl | rfl | rfl
      · exact first shown
      · exact second shown
      · exact third shown

theorem keyless_front (b : Blueprint) (ifNotExists : Bool) :
    d.Keyless ("create " ++ (if b.temporary then "temporary " else "") ++ "table " ++
      (if ifNotExists then "if not exists " else "") ++ d.table b) := by
  have creating : d.Keyless "create " := keyless_fixed rfl rfl
  have duration : d.Keyless (if b.temporary then "temporary " else "") :=
    of_either _ (keyless_fixed rfl rfl) (keyless_fixed rfl rfl)
  have table : d.Keyless "table " := keyless_fixed rfl rfl
  have guard : d.Keyless (if ifNotExists then "if not exists " else "") :=
    of_either _ (keyless_fixed rfl rfl) (keyless_fixed rfl rfl)
  exact (((creating.append duration).append table).append guard).append
    (keyless_composable.tableName b.table)

/-- A definition behind the keyword that adds it, and with a blank in front. -/
theorem spells_added {k : Nat} {text : String} (one : d.Spells k text) :
    d.Spells k (d.addKeyword ++ " " ++ text) ∧ d.Adds k (" " ++ (d.addKeyword ++ " " ++ text)) := by
  have behind {cs : List Char} (known : parting 0 cs = true) : d.Adds k (String.ofList cs ++ text) := by
    simpa using adds_behind known one
  have first {cs : List Char} (known : parting 0 cs = true) : d.Spells k (String.ofList cs ++ text) :=
    (behind known).spells
  unfold addKeyword
  cases d.database with
  | mySql =>
    have keyword : "add" ++ " " = "add " := by simp
    have spaced : " " ++ ("add " ++ text) = " add " ++ text := by simp [← String.append_assoc]
    dsimp only
    rw [keyword, spaced]
    exact ⟨first rfl, behind rfl⟩
  | postgres =>
    have keyword : "add column" ++ " " = "add column " := by simp
    have spaced : " " ++ ("add column " ++ text) = " add column " ++ text := by
      simp [← String.append_assoc]
    dsimp only
    rw [keyword, spaced]
    exact ⟨first rfl, behind rfl⟩

/-- The statement that defines the columns declares the keys of their definitions. -/
theorem spells_definitions {ks : List Nat} {definitions : List String} {s : String}
    (each : List.Forall₂ d.Spells ks definitions) (shape : d.Defines b definitions s) :
    d.Spells ks.sum s := by
  cases shape with
  | created ifNotExists configured =>
    have list : d.Adds ks.sum (" (" ++ Text.joinWith ", " definitions) := by
      cases each with
      | nil => exact adds_behind rfl spells_empty
      | @cons k text ks texts first others =>
        have led : d.Adds (0 + k) (" (" ++ text) := adds_behind rfl first
        rw [append_joinWith]
        exact adds_joined (by simpa using led) rfl others
    have closing : d.Adds 0 ")" := adds_fixed rfl
    have options := (configured ▸ adds_options (d := d) b).of_ok
    have whole := ((list.append closing).append options) _ _ (keyless_front b ifNotExists).spells
    simpa [String.append_assoc] using whole
  | added some =>
    have front : d.Keyless ("alter table " ++ d.table b) :=
      (keyless_fixed rfl rfl).append (keyless_composable.tableName b.table)
    have list : d.Adds ks.sum (" " ++ Text.joinWith ", " (prefixEach d.addKeyword definitions)) := by
      cases each with
      | nil => exact absurd rfl some
      | cons first others =>
        rw [prefixEach, List.map_cons, append_joinWith]
        refine adds_joined (spells_added first).2 rfl ?_
        exact List.forall₂_map_right_iff.mpr (others.imp fun _ _ one => (spells_added one).1)
    have whole := list _ _ front.spells
    simpa [alter, String.append_assoc] using whole

/-! ## Commands -/

/-- A sum of ones for what has a property is the number of those. -/
theorem sum_toNat {α : Type} (p : α → Bool) (xs : List α) :
    (xs.map fun x => (p x).toNat).sum = xs.countP p := by
  induction xs with
  | nil => rfl
  | cons x xs ih => cases has : p x <;> simp [ih, has, Nat.add_comm]

/-- The primary keys that statements declare together. -/
def allKeys (d : SchemaDialect) (b : Blueprint) (statements : List String) : Nat :=
  (statements.map (d.primaryKeys b)).sum

theorem allKeys_append (front back : List String) :
    d.allKeys b (front ++ back) = d.allKeys b front + d.allKeys b back := by
  simp [allKeys]

theorem allKeys_flatMap {cs : List Command} :
    d.allKeys b (cs.flatMap (d.written b)) = (cs.map fun c => d.allKeys b (d.written b c)).sum := by
  induction cs with
  | nil => rfl
  | cons c cs ih =>
    rw [List.flatMap_cons, List.map_cons, List.sum_cons, ← ih, allKeys_append]

/-- Statements that neither define columns nor add a key declare none. -/
theorem allKeys_none {statements : List String}
    (apart : ∀ s ∈ statements, d.kind b s = .comment ∨ d.kind b s = .other) :
    d.allKeys b statements = 0 := by
  have each : statements.map (d.primaryKeys b) = statements.map fun _ => 0 := by
    apply List.map_congr_left
    intro s member
    rcases apart s member with kind | kind <;> simp [primaryKeys, kind]
  rw [allKeys, each]
  simp

theorem allKeys_columns (quiet : ∀ c ∈ b.columns, d.QuietDefault c) {c : Command}
    (writes : d.WritesColumns b c) : d.allKeys b (d.written b c) = b.columns.countP increments := by
  obtain ⟨definitions, s, defined, written, shape, kind⟩ := writes
  have each := (defined ▸ spells_columns quiet).of_ok
  have own : d.primaryKeys b s = b.columns.countP increments := by
    rw [primaryKeys, kind]
    show occurrences keyPhrase (d.quotation.outline s) = _
    rw [(spells_definitions each shape).count, sum_toNat]
  have comments : d.allKeys b (d.comments b) = 0 :=
    allKeys_none fun t member => .inl (kind_comment member)
  rw [written]
  simpa [allKeys, own] using comments

theorem allKeys_command (quiet : ∀ c ∈ b.columns, d.QuietDefault c) {c : Command}
    (keeps : c.keepsKeys = true) (done : d.command b c = .ok (d.written b c)) :
    d.allKeys b (d.written b c) = if c.isCreate then b.columns.countP increments else 0 := by
  cases kind : c.kind with
  | definition =>
    cases c with
    | create ifNotExists => exact allKeys_columns quiet (writesColumns_create done)
    | add => cases keeps
    | _ => cases kind
  | comment => cases c <;> cases kind
  | primaryKey =>
    cases c with
    | primary name columns => cases keeps
    | _ => cases kind
  | other =>
    have create : c.isCreate = false := by cases c <;> first | rfl | cases kind
    rw [create]
    exact allKeys_none fun s member => .inr (kind_written kind s member)

theorem allKeys_columnIndexes (column : Column) :
    ((Blueprint.columnIndexes column).map fun c => d.allKeys b (d.written b c)).sum =
      column.primary.toNat := by
  have primary : d.allKeys b (d.written b (.primary none [column.name])) = 1 := by
    show d.allKeys b [d.addPrimary b [column.name]] = 1
    simp [allKeys, primaryKeys, kind_addPrimary]
  have unique : d.allKeys b (d.written b (.unique none [column.name])) = 0 :=
    allKeys_none fun s member => .inr (kind_written rfl s member)
  have index : d.allKeys b (d.written b (.index none [column.name])) = 0 :=
    allKeys_none fun s member => .inr (kind_written rfl s member)
  unfold Blueprint.columnIndexes
  cases column.primary <;> cases column.unique <;> cases column.index <;>
    simp [primary, unique, index]

theorem allKeys_fluentIndexes (b : Blueprint) :
    d.allKeys b (b.fluentIndexes.flatMap (d.written b)) = b.columns.countP (·.primary) := by
  rw [← sum_toNat, allKeys_flatMap, Blueprint.fluentIndexes]
  induction b.columns with
  | nil => rfl
  | cons column columns ih =>
    rw [List.flatMap_cons, List.map_append, List.sum_append, ih, allKeys_columnIndexes, List.map_cons,
      List.sum_cons]

theorem allKeys_commands (quiet : ∀ c ∈ b.columns, d.QuietDefault c) {cs : List Command}
    (keeps : ∀ c ∈ cs, c.keepsKeys = true) (done : ∀ c ∈ cs, d.command b c = .ok (d.written b c)) :
    d.allKeys b (cs.flatMap (d.written b)) =
      cs.countP Command.isCreate * b.columns.countP increments := by
  rw [allKeys_flatMap]
  induction cs with
  | nil => simp
  | cons c cs ih =>
    have rest := ih (fun e member => keeps e (by simp [member])) fun e member => done e (by simp [member])
    have own := allKeys_command quiet (keeps c (by simp)) (done c (by simp))
    rw [List.map_cons, List.sum_cons, rest, own, List.countP_cons, Nat.add_mul, Nat.add_comm]
    cases c.isCreate <;> simp

/-- In front of its commands, a blueprint adds its columns unless it creates the table. -/
theorem allKeys_implied (quiet : ∀ c ∈ b.columns, d.QuietDefault c)
    (done : ∀ c ∈ allCommands b, d.command b c = .ok (d.written b c)) :
    d.allKeys b ((if b.columns.isEmpty || b.creating then [] else [.add]).flatMap (d.written b)) =
      if b.creating then 0 else b.columns.countP increments := by
  cases creating : b.creating with
  | true => simp [allKeys]
  | false =>
    by_cases columns : b.columns = []
    · simp [columns, allKeys]
    · have implied : .add ∈ allCommands b := by simp [allCommands, columns, creating]
      have added := allKeys_columns quiet (writesColumns_add columns (done .add implied))
      simpa [columns] using added

/-- The table is created by its one command, or its columns are added first; either way, each column that
counts up is defined once. -/
theorem allKeys_statements {statements : List String} (quiet : ∀ c ∈ b.columns, d.QuietDefault c)
    (keeps : ∀ c ∈ b.commands, c.keepsKeys = true) (single : b.commands.countP Command.isCreate ≤ 1)
    (done : d.statements b = .ok statements) : d.allKeys b statements =
      b.columns.countP (·.primary) + b.columns.countP increments := by
  obtain ⟨whole, each⟩ := commands_written done
  have implied := allKeys_implied quiet each
  have commands := allKeys_commands quiet keeps fun c member => each c (by simp [allCommands, member])
  have indexes := allKeys_fluentIndexes (d := d) b
  have creations : b.commands.countP Command.isCreate = b.creating.toNat := by
    cases creating : b.creating with
    | true =>
      have some : 0 < b.commands.countP Command.isCreate := by
        rw [List.countP_pos_iff]
        simpa [Blueprint.creating] using creating
      exact Nat.le_antisymm single some
    | false =>
      rw [Blueprint.creating, List.any_eq_false] at creating
      exact List.countP_eq_zero.mpr creating
  rw [whole, allCommands, List.flatMap_append, List.flatMap_append, allKeys_append, allKeys_append, implied,
    commands, indexes, creations]
  cases b.creating <;> simp [Nat.add_comm]

/-- Two properties hold of as many items as one of them, and as both. -/
theorem countP_add_countP {α : Type} (p q : α → Bool) (xs : List α) :
    xs.countP p + xs.countP q = xs.countP (fun x => p x || q x) + xs.countP fun x => p x && q x := by
  induction xs with
  | nil => rfl
  | cons x xs ih =>
    simp only [List.countP_cons]
    cases p x <;> cases q x <;> simp <;> omega

/-- If at most one column is to be the primary key, it is declared once, but twice if the column is both
flagged and counts up. -/
theorem primaryKeys_declared (d : SchemaDialect) {b : Blueprint} {statements : List String}
    (keeps : ∀ c ∈ b.commands, c.keepsKeys = true) (single : b.commands.countP Command.isCreate ≤ 1)
    (marked : b.columns.countP Column.isKey ≤ 1) (quiet : ∀ c ∈ b.columns, d.QuietDefault c)
    (done : d.statements b = .ok statements) : (statements.map (d.primaryKeys b)).sum =
      if b.columns.any Column.isKeyTwice then 2 else if b.columns.any Column.isKey then 1 else 0 := by
  have total : d.allKeys b statements =
      b.columns.countP Column.isKey + b.columns.countP Column.isKeyTwice :=
    (allKeys_statements quiet keeps single done).trans (countP_add_countP _ _ _)
  have within : b.columns.countP Column.isKeyTwice ≤ b.columns.countP Column.isKey := by
    apply List.countP_mono_left
    intro column _ twice
    simp only [Column.isKeyTwice, Bool.and_eq_true] at twice
    simp [Column.isKey, twice.1]
  have some {p : Column → Bool} : b.columns.any p = true ↔ 0 < b.columns.countP p := by
    simp [List.countP_pos_iff]
  refine total.trans ?_
  simp only [some]
  split
  · omega
  · split <;> omega

/-- Two columns, of which one counts up and is flagged as the primary key as well. -/
def numberedUsers : Blueprint where
  table := "users"
  columns := [{ name := "id", type := .bigInteger, autoIncrement := true, primary := true },
    { name := "joined", type := .date, default := some (.raw ⟨"(current_date)"⟩) }]
  commands := [.create false, .dropIndex "old"]

theorem primaryKeys_declared_numberedUsers :
    let d : SchemaDialect := ⟨.mySql, "", {}⟩
    let statements := ["create table `users` (`id` bigint not null auto_increment primary key, " ++
        "`joined` date not null default (current_date))",
      "alter table `users` drop index `old`", "alter table `users` add primary key (`id`)"]
    (∀ c ∈ numberedUsers.commands, c.keepsKeys = true) ∧
    numberedUsers.commands.countP Command.isCreate ≤ 1 ∧
    numberedUsers.columns.countP Column.isKey ≤ 1 ∧
    (∀ c ∈ numberedUsers.columns, d.QuietDefault c) ∧
    d.statements numberedUsers = .ok statements ∧
    (statements.map (d.primaryKeys numberedUsers)).sum = 2 := by
  intro d statements
  have keeps : ∀ c ∈ numberedUsers.commands, c.keepsKeys = true := by decide
  have single : numberedUsers.commands.countP Command.isCreate ≤ 1 := by decide
  have marked : numberedUsers.columns.countP Column.isKey ≤ 1 := by decide
  have quiet : ∀ c ∈ numberedUsers.columns, d.QuietDefault c := by
    intro c member sql given
    simp only [numberedUsers, List.mem_cons, List.not_mem_nil, or_false] at member
    rcases member with rfl | rfl
    · cases given
    · cases given
      exact (keyless_fixed rfl rfl).spells
  have done : d.statements numberedUsers = .ok statements := ok_of_toOption (by decide)
  exact ⟨keeps, single, marked, quiet, done, primaryKeys_declared d keeps single marked quiet done⟩

end SchemaDialect
end SqlCompose
