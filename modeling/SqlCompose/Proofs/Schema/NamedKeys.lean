import Mathlib.Data.List.Pairwise
import SqlCompose.Proofs.Schema.Kinds

/-!
# Keys that are dropped by name

A key that is given a name is created under it, and dropping a key of that name drops it again. The primary
key is the exception: it is created without its name, and PostgreSQL still drops it by the name
(`named_keys_dropped_iff`).
-/
namespace SqlCompose

/-- What a statement creates or drops for a key. -/
inductive KeyObject where
  | index
  | constraint
  deriving DecidableEq, Repr

namespace Command

/-- The kind of key that the command adds, and the name it is given. -/
def addedKey? : Command → Option (IndexKind × Option String)
  | .primary name _ => some (.primary, name)
  | .unique name _ => some (.unique, name)
  | .index name _ => some (.index, name)
  | .foreign key => some (.foreign, key.name)
  | _ => none

/-- The kind of key that the command drops, and the name it is given. -/
def droppedKey? : Command → Option (IndexKind × Option String)
  | .dropPrimary name => some (.primary, name)
  | .dropUnique name => some (.unique, some name)
  | .dropIndex name => some (.index, some name)
  | .dropForeign name => some (.foreign, some name)
  | _ => none

end Command

namespace SchemaDialect

variable {d : SchemaDialect} {b : Blueprint}

/-- What stands in front of the name of an object that is created. -/
def additions (d : SchemaDialect) (b : Blueprint) : List (KeyObject × String) :=
  [(.index, d.alter b "add unique "), (.index, d.alter b "add index "), (.index, "create index "),
    (.constraint, d.alter b "add constraint ")]

/-- What stands in front of the name of an object that is dropped. -/
def droppings (d : SchemaDialect) (b : Blueprint) : List (KeyObject × String) :=
  [(.index, d.alter b "drop index "), (.index, "drop index "),
    (.constraint, d.alter b "drop constraint "), (.constraint, d.alter b "drop foreign key ")]

/-- The statement creates an object under a quoted name. -/
def AddsKey (d : SchemaDialect) (b : Blueprint) (object : KeyObject) (x s : String) : Prop :=
  ∃ front, (object, front) ∈ d.additions b ∧
    ∃ name rest, x = d.quoter.part name ∧ s = front ++ (x ++ " " ++ rest)

/-- The statement drops an object by a quoted name. -/
def DropsKey (d : SchemaDialect) (b : Blueprint) (object : KeyObject) (x s : String) : Prop :=
  ∃ front, (object, front) ∈ d.droppings b ∧ ∃ name, x = d.quoter.part name ∧ s = front ++ x

/-- What a key is to the database: MySQL has indexes where PostgreSQL has constraints. -/
def keyObject (d : SchemaDialect) : IndexKind → KeyObject
  | .primary | .foreign => .constraint
  | .unique => match d.database with
    | .mySql => .index
    | .postgres => .constraint
  | .index => .index

/-! ## Objects and names of a statement -/

theorem part_append_inj {name name' rest rest' : String}
    (same : d.quoter.part name ++ " " ++ rest = d.quoter.part name' ++ " " ++ rest') :
    d.quoter.part name = d.quoter.part name' := by
  have quote : d.quoter.quote ≠ '*' ∧ d.quoter.quote ≠ ' ' := by
    unfold quoter
    cases d.database <;> simp
  have starred {s r r' : String} : "*" ++ r ≠ Text.quoted d.quoter.quote s ++ r' := by
    intro same
    rw [← String.toList_inj] at same
    simp only [Text.quoted, String.toList_append, String.toList_ofList] at same
    exact quote.1 (List.cons.inj same).1.symm
  rw [String.append_assoc, String.append_assoc] at same
  unfold Quoter.part at same ⊢
  by_cases star : name = "*" <;> by_cases star' : name' = "*"
  · rw [if_pos star, if_pos star', star, star']
  · rw [if_pos star, if_neg star', star] at same
    exact absurd same starred
  · rw [if_neg star, if_pos star', star'] at same
    exact absurd same.symm starred
  · rw [if_neg star, if_neg star'] at same ⊢
    rw [Text.quoted_append_inj (by simp [quote.2.symm]) (by simp [quote.2.symm]) same]

/-- Texts of which none starts with another one. -/
def Apart (fronts : List (KeyObject × String)) : Prop :=
  fronts.Pairwise fun p q => Text.begins p.2 q.2 = false ∧ Text.begins q.2 p.2 = false

/-- A statement starts with one of them at most. -/
theorem Apart.eq {fronts : List (KeyObject × String)} (apart : Apart fronts) {p q : KeyObject × String}
    (member : p ∈ fronts) (member' : q ∈ fronts) {s : String} (starts : Text.begins p.2 s = true)
    (starts' : Text.begins q.2 s = true) : p = q := by
  have : Std.Symm fun p q : KeyObject × String =>
      Text.begins p.2 q.2 = false ∧ Text.begins q.2 p.2 = false := ⟨fun _ _ => And.symm⟩
  by_contra other
  have pair := List.Pairwise.forall apart member member' other
  have never := Text.begins_apart starts pair.1 pair.2
  rw [starts'] at never
  cases never

theorem additions_apart (d : SchemaDialect) (b : Blueprint) : Apart (d.additions b) := by
  simp only [Apart, additions, List.pairwise_cons, List.forall_mem_cons, begins_alter]
  simp [Text.begins, alter, List.isPrefixOf]

theorem droppings_apart (d : SchemaDialect) (b : Blueprint) : Apart (d.droppings b) := by
  simp only [Apart, droppings, List.pairwise_cons, List.forall_mem_cons, begins_alter]
  simp [Text.begins, alter, List.isPrefixOf]

theorem addsKey_iff {object : KeyObject} {front : String} (member : (object, front) ∈ d.additions b)
    (name rest : String) {o : KeyObject} {x : String} :
    d.AddsKey b o x (front ++ (d.quoter.part name ++ " " ++ rest)) ↔
      o = object ∧ x = d.quoter.part name := by
  constructor
  · rintro ⟨front', member', name', rest', rfl, same⟩
    have starts := Text.begins_append front (d.quoter.part name ++ " " ++ rest)
    have starts' := Text.begins_append front' (d.quoter.part name' ++ " " ++ rest')
    rw [← same] at starts'
    obtain ⟨rfl, rfl⟩ := Prod.mk.inj ((additions_apart d b).eq member member' starts starts')
    exact ⟨rfl, (part_append_inj (String.append_right_inj front |>.mp same)).symm⟩
  · rintro ⟨rfl, rfl⟩
    exact ⟨front, member, name, rest, rfl, rfl⟩

theorem dropsKey_iff {object : KeyObject} {front : String} (member : (object, front) ∈ d.droppings b)
    (name : String) {o : KeyObject} {x : String} :
    d.DropsKey b o x (front ++ d.quoter.part name) ↔ o = object ∧ x = d.quoter.part name := by
  constructor
  · rintro ⟨front', member', name', rfl, same⟩
    have starts := Text.begins_append front (d.quoter.part name)
    have starts' := Text.begins_append front' (d.quoter.part name')
    rw [← same] at starts'
    obtain ⟨rfl, rfl⟩ := Prod.mk.inj ((droppings_apart d b).eq member member' starts starts')
    exact ⟨rfl, ((String.append_right_inj front).mp same).symm⟩
  · rintro ⟨rfl, rfl⟩
    exact ⟨front, member, name, rfl, rfl⟩

/-- A primary key is created without a name. -/
theorem not_addsKey_addPrimary (columns : List String) {o : KeyObject} {x : String} :
    ¬ d.AddsKey b o x (d.addPrimary b columns) := by
  have never : ∀ p ∈ d.additions b, Text.begins p.2 (d.addPrimary b columns) = false := by
    simp only [additions, List.forall_mem_cons, addPrimary, addKey, begins_alter]
    simp [Text.begins, alter, List.isPrefixOf]
  rintro ⟨front, member, name, rest, -, same⟩
  have starts := Text.begins_append front (x ++ " " ++ rest)
  rw [← same, never (o, front) member] at starts
  cases starts

/-- MySQL drops the primary key without a name. -/
theorem not_dropsKey_primary {o : KeyObject} {x : String} :
    ¬ d.DropsKey b o x (d.alter b "drop primary key") := by
  have never : ∀ p ∈ d.droppings b, Text.begins p.2 (d.alter b "drop primary key") = false := by
    simp only [droppings, List.forall_mem_cons, begins_alter]
    simp [Text.begins, alter, List.isPrefixOf]
  rintro ⟨front, member, name, -, same⟩
  have starts := Text.begins_append front x
  rw [← same, never (o, front) member] at starts
  cases starts

/-! ## Commands -/

theorem alter_append (b : Blueprint) (change rest : String) :
    d.alter b (change ++ rest) = d.alter b change ++ rest := by
  simp [alter, String.append_assoc]

/-- A key that is not the primary one is created under its name. -/
theorem command_added {c : Command} {kind : IndexKind} {name : String}
    (adds : c.addedKey? = some (kind, some name)) (other : kind ≠ .primary) :
    ∃ front rest, (d.keyObject kind, front) ∈ d.additions b ∧
      d.command b c = .ok [front ++ (d.quoter.part name ++ " " ++ rest)] := by
  cases c with
  | primary key columns =>
    cases adds
    exact absurd rfl other
  | unique key columns =>
    cases adds
    cases database : d.database with
    | mySql =>
      refine ⟨d.alter b "add unique ", "(" ++ d.quoter.columnNames columns ++ ")", ?_, ?_⟩
      · simp [additions, keyObject, database]
      · rw [← alter_append]
        simp [command, addUnique, addKey, keyName, database, alter, ← String.toList_inj]
    | postgres =>
      refine ⟨d.alter b "add constraint ", "unique (" ++ d.quoter.columnNames columns ++ ")", ?_, ?_⟩
      · simp [additions, keyObject, database]
      · rw [← alter_append]
        simp [command, addUnique, addKey, keyName, database, alter, ← String.toList_inj]
  | index key columns =>
    cases adds
    cases database : d.database with
    | mySql =>
      refine ⟨d.alter b "add index ", "(" ++ d.quoter.columnNames columns ++ ")", ?_, ?_⟩
      · simp [additions, keyObject]
      · rw [← alter_append]
        simp [command, addIndex, addKey, keyName, database, alter, ← String.toList_inj]
    | postgres =>
      refine ⟨"create index ", "on " ++ d.table b ++ " (" ++ d.quoter.columnNames columns ++ ")", ?_, ?_⟩
      · simp [additions, keyObject]
      · simp [command, addIndex, keyName, database, ← String.toList_inj]
  | foreign key =>
    obtain ⟨rfl, given⟩ := Prod.mk.inj (Option.some.inj adds)
    refine ⟨d.alter b "add constraint ", "foreign key (" ++ d.quoter.columnNames key.columns ++
      ") references " ++ d.quoter.tableName key.table ++ " (" ++ d.quoter.columnNames key.references ++
      ")" ++ actionText "delete" key.onDelete ++ actionText "update" key.onUpdate, ?_, ?_⟩
    · simp [additions, keyObject]
    · rw [← alter_append]
      simp [command, addForeign, keyName, given, alter, ← String.toList_inj]
  | _ => cases adds

/-- A key is dropped by its name, but MySQL's primary key. -/
theorem command_dropped {c : Command} {kind : IndexKind} {name : String}
    (drops : c.droppedKey? = some (kind, some name))
    (other : ¬ (d.database = .mySql ∧ kind = .primary)) :
    ∃ front, (d.keyObject kind, front) ∈ d.droppings b ∧
      d.command b c = .ok [front ++ d.quoter.part name] := by
  cases c with
  | dropPrimary key =>
    cases drops
    refine ⟨d.alter b "drop constraint ", by simp [droppings, keyObject], ?_⟩
    cases database : d.database with
    | mySql => exact absurd ⟨database, rfl⟩ other
    | postgres => simp [command, dropPrimary, dropConstraint, database, alter_append]
  | dropUnique key =>
    cases drops
    cases database : d.database with
    | mySql =>
      refine ⟨d.alter b "drop index ", by simp [droppings, keyObject, database], ?_⟩
      simp [command, dropUnique, database, alter_append]
    | postgres =>
      refine ⟨d.alter b "drop constraint ", by simp [droppings, keyObject, database], ?_⟩
      simp [command, dropUnique, dropConstraint, database, alter_append]
  | dropIndex key =>
    cases drops
    cases database : d.database with
    | mySql =>
      refine ⟨d.alter b "drop index ", by simp [droppings, keyObject], ?_⟩
      simp [command, dropIndex, database, alter_append]
    | postgres =>
      refine ⟨"drop index ", by simp [droppings, keyObject], ?_⟩
      simp [command, dropIndex, database]
  | dropForeign key =>
    cases drops
    cases database : d.database with
    | mySql =>
      refine ⟨d.alter b "drop foreign key ", by simp [droppings, keyObject], ?_⟩
      simp [command, dropForeign, database, alter_append]
    | postgres =>
      refine ⟨d.alter b "drop constraint ", by simp [droppings, keyObject], ?_⟩
      simp [command, dropForeign, dropConstraint, database, alter_append]
  | _ => cases drops

theorem added_name {c : Command} {kind : IndexKind} {name : String}
    (adds : c.addedKey? = some (kind, some name)) :
    ∃ s, d.command b c = .ok [s] ∧ ∀ o x, d.AddsKey b o x s ↔
      kind ≠ .primary ∧ o = d.keyObject kind ∧ x = d.quoter.part name := by
  by_cases primary : kind = .primary
  · subst primary
    cases c with
    | primary key columns =>
      refine ⟨_, rfl, fun o x => ?_⟩
      simpa using not_addsKey_addPrimary columns
    | _ => cases adds
  · obtain ⟨front, rest, member, done⟩ := command_added (d := d) (b := b) adds primary
    refine ⟨_, done, fun o x => ?_⟩
    rw [addsKey_iff member, and_iff_right primary]

theorem dropped_name {c : Command} {kind : IndexKind} {name : String}
    (drops : c.droppedKey? = some (kind, some name)) :
    ∃ s, d.command b c = .ok [s] ∧ ∀ o x, d.DropsKey b o x s ↔
      ¬ (d.database = .mySql ∧ kind = .primary) ∧ o = d.keyObject kind ∧ x = d.quoter.part name := by
  by_cases primary : d.database = .mySql ∧ kind = .primary
  · obtain ⟨database, rfl⟩ := primary
    cases c with
    | dropPrimary key =>
      refine ⟨d.alter b "drop primary key", by simp [command, dropPrimary, database], fun o x => ?_⟩
      simpa [database] using not_dropsKey_primary
    | _ => cases drops
  · obtain ⟨front, member, done⟩ := command_dropped (b := b) drops primary
    refine ⟨_, done, fun o x => ?_⟩
    rw [dropsKey_iff member, and_iff_right primary]

/-- Whatever is dropped by a name was created under it, unless it is a primary key that PostgreSQL drops. -/
theorem named_keys_dropped_iff (d : SchemaDialect) (b : Blueprint) {adding dropping : Command}
    {kind : IndexKind} {name : String} (adds : adding.addedKey? = some (kind, some name))
    (drops : dropping.droppedKey? = some (kind, some name)) :
    ∃ added dropped, d.command b adding = .ok [added] ∧ d.command b dropping = .ok [dropped] ∧
      (∀ o x, d.AddsKey b o x added ↔
        kind ≠ .primary ∧ o = d.keyObject kind ∧ x = d.quoter.part name) ∧
      (∀ o x, d.DropsKey b o x dropped ↔ ¬ (d.database = .mySql ∧ kind = .primary) ∧
        o = d.keyObject kind ∧ x = d.quoter.part name) ∧
      ((∀ o x, d.DropsKey b o x dropped → d.AddsKey b o x added) ↔
        ¬ (d.database = .postgres ∧ kind = .primary)) := by
  obtain ⟨added, wrote, creates⟩ := added_name (d := d) (b := b) adds
  obtain ⟨dropped, wrote', removes⟩ := dropped_name (d := d) (b := b) drops
  refine ⟨added, dropped, wrote, wrote', creates, removes, ?_⟩
  constructor
  · rintro undone ⟨database, primary⟩
    have object := (removes (d.keyObject kind) (d.quoter.part name)).mpr (by simp [database])
    exact ((creates _ _).mp (undone _ _ object)).1 primary
  · intro other o x removed
    obtain ⟨named, same⟩ := (removes o x).mp removed
    refine (creates o x).mpr ⟨fun primary => ?_, same⟩
    cases database : d.database with
    | mySql => exact named ⟨database, primary⟩
    | postgres => exact other ⟨database, primary⟩

/-- The primary key `users_pk` of PostgreSQL is dropped under a name that it was not created under. -/
theorem named_keys_dropped_iff_usersKey :
    let d : SchemaDialect := ⟨.postgres, "", {}⟩
    let b : Blueprint := { table := "users" }
    let adding : Command := .primary (some "users_pk") ["id"]
    let dropping : Command := .dropPrimary (some "users_pk")
    adding.addedKey? = some (.primary, some "users_pk") ∧
    dropping.droppedKey? = some (.primary, some "users_pk") ∧
    d.command b adding = .ok ["alter table \"users\" add primary key (\"id\")"] ∧
    d.command b dropping = .ok ["alter table \"users\" drop constraint \"users_pk\""] ∧
    d.DropsKey b .constraint "\"users_pk\"" "alter table \"users\" drop constraint \"users_pk\"" ∧
    ∀ o x, ¬ d.AddsKey b o x "alter table \"users\" add primary key (\"id\")" := by
  intro d b adding dropping
  have adds : adding.addedKey? = some (.primary, some "users_pk") := rfl
  have drops : dropping.droppedKey? = some (.primary, some "users_pk") := rfl
  have done : d.command b adding = .ok ["alter table \"users\" add primary key (\"id\")"] :=
    ok_of_toOption (by decide)
  have done' : d.command b dropping = .ok ["alter table \"users\" drop constraint \"users_pk\""] :=
    ok_of_toOption (by decide)
  obtain ⟨added, dropped, wrote, wrote', creates, removes, -⟩ := named_keys_dropped_iff d b adds drops
  cases done.symm.trans wrote
  cases done'.symm.trans wrote'
  refine ⟨adds, drops, done, done', (removes _ _).mpr ⟨by simp [d], rfl, ?_⟩, fun o x created => ?_⟩
  · decide
  · exact ((creates o x).mp created).1 rfl

end SchemaDialect
end SqlCompose
