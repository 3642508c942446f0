import SqlCompose.Proofs.Outcome
import SqlCompose.Proofs.Quoting.References
import SqlCompose.Schema.Statement

/-!
# Names that have to be simple

PostgreSQL takes no qualified name for a constraint that is dropped or for what a table is renamed to. Both
are written as tables are, which is one quoted identifier just when the prefixed name has no dots and no
alias (`simple_names_iff`).
-/
namespace SqlCompose

open Text (HasAs)

/-- The text is one identifier in quotes, without dots and without an alias. -/
def OneIdentifier (quote : Char) (s : String) : Prop :=
  ∃ text, ReadsReference quote s.toList [.quoted text] none

theorem Identifier.of_eq_quoted {s text : String} : of s = .quoted text ↔ s = text ∧ text ≠ "*" := by
  unfold of
  split
  · next star =>
    subst star
    simp [eq_comm]
  · next other =>
    rw [Identifier.quoted.injEq]
    constructor
    · rintro rfl
      exact ⟨rfl, other⟩
    · exact And.left

theorem ReadsOnlyAs.oneIdentifier_iff {quote : Char} {s : String} {parts : List String}
    {knownAs : Option String} (only : ReadsOnlyAs quote s parts knownAs) :
    OneIdentifier quote s ↔ (∃ text, parts = [text] ∧ text ≠ "*") ∧ knownAs = none := by
  constructor
  · rintro ⟨text, read⟩
    obtain ⟨single, unnamed⟩ := (only _ _).mp read
    obtain ⟨part, rfl, own⟩ := List.map_eq_singleton_iff.mp single.symm
    obtain ⟨rfl, other⟩ := Identifier.of_eq_quoted.mp own
    exact ⟨⟨part, rfl, other⟩, Option.map_eq_none_iff.mp unnamed.symm⟩
  · rintro ⟨⟨text, rfl, other⟩, rfl⟩
    have own := Identifier.of_eq_quoted.mpr ⟨rfl, other⟩
    exact ⟨text, (only _ _).mpr ⟨by rw [List.map_singleton, own], rfl⟩⟩

theorem betweenDots_eq_singleton {s text : String} :
    betweenDots s = [text] ↔ '.' ∉ s.toList ∧ text = s := by
  have whole (never : '.' ∉ s.toList) : betweenDots s = [s] := by
    rw [← dottedParts_eq, dottedParts, Text.splitAt_of_not_mem never, List.map_singleton,
      String.ofList_toList]
  constructor
  · intro alone
    have length := congrArg List.length alone
    rw [← dottedParts_eq, dottedParts, List.length_map, Text.length_splitAt] at length
    have never : '.' ∉ s.toList := List.count_eq_zero.mp (by simpa using length)
    rw [whole never] at alone
    exact ⟨never, (List.cons.inj alone).1.symm⟩
  · rintro ⟨never, rfl⟩
    exact whole never

namespace Quoter

variable {w : Quoter}

/-- A table is one identifier if its prefixed name has no dots and is no star, and it has no alias. -/
theorem oneIdentifier_tableName (apart : w.quote ∉ ['*', '.', ' ']) (name : String) :
    OneIdentifier w.quote (w.tableName name) ↔ '.' ∉ (w.tablePrefix ++ name).toList ∧
      ¬ HasAs name.toList ∧ w.tablePrefix ++ name ≠ "*" := by
  obtain ⟨base, knownAs, spelled, -⟩ := name_spelled name
  rw [(tableName_reads apart spelled).oneIdentifier_iff]
  cases spelled with
  | plain never => simp [betweenDots_eq_singleton, never]
  | aliased split =>
    obtain ⟨word, isAs, whole⟩ := split.parted
    have named : HasAs name.toList := ⟨word, isAs, _, _, whole.symm⟩
    simp [named]

/-- With the suffix of primary keys, a table is one identifier if its prefixed name has no dots and it has no
alias: the suffix brings neither, and it is no star. -/
theorem oneIdentifier_suffixed (apart : w.quote ∉ ['*', '.', ' ']) (name : String) :
    OneIdentifier w.quote (w.tableName (name ++ "_pkey")) ↔
      '.' ∉ (w.tablePrefix ++ name).toList ∧ ¬ HasAs name.toList := by
  have suffix : ¬ HasAs "pkey".toList := Text.splitAs?_eq_none.mp rfl
  have chars : (name ++ "_pkey").toList = name.toList ++ '_' :: "pkey".toList := by simp
  have named : HasAs (name ++ "_pkey").toList ↔ HasAs name.toList := by
    rw [chars, Text.hasAs_parted (by decide), or_iff_left suffix]
  have dotted : '.' ∈ (w.tablePrefix ++ (name ++ "_pkey")).toList ↔
      '.' ∈ (w.tablePrefix ++ name).toList := by simp
  have other : w.tablePrefix ++ (name ++ "_pkey") ≠ "*" := by
    intro same
    have length := congrArg String.length same
    have five : "_pkey".length = 5 := rfl
    have one : "*".length = 1 := rfl
    rw [String.length_append, String.length_append] at length
    omega
  rw [oneIdentifier_tableName apart, dotted, named, and_iff_left other]

end Quoter

namespace SchemaDialect

/-- The key that PostgreSQL drops when none is named is one identifier just when the table's prefixed name
has no dots and no alias, and so is what a table is renamed to, unless the latter is a star. -/
theorem simple_names_iff (tablePrefix : String) (options : TableOptions) (b : Blueprint) (table : String) :
    let d : SchemaDialect := ⟨.postgres, tablePrefix, options⟩
    (∃ x, d.command b (.dropPrimary none) = .ok [d.alter b ("drop constraint " ++ x)] ∧
      (OneIdentifier '"' x ↔ '.' ∉ (tablePrefix ++ b.table).toList ∧ ¬ HasAs b.table.toList)) ∧
    (∃ x, d.command b (.rename table) = .ok [d.alter b ("rename to " ++ x)] ∧
      (OneIdentifier '"' x ↔ '.' ∉ (tablePrefix ++ table).toList ∧ ¬ HasAs table.toList ∧
        tablePrefix ++ table ≠ "*")) := by
  intro d
  have apart : d.quoter.quote ∉ ['*', '.', ' '] := by simp [d, quoter]
  exact ⟨⟨d.quoter.tableName (b.table ++ "_pkey"), rfl, Quoter.oneIdentifier_suffixed apart b.table⟩,
    d.quoter.tableName table, rfl, Quoter.oneIdentifier_tableName apart table⟩

/-- The key of a table of a schema is dropped under a qualified name, which PostgreSQL does not accept. -/
theorem simple_names_iff_publicUsers :
    let d : SchemaDialect := ⟨.postgres, "", {}⟩
    let b : Blueprint := { table := "public.users" }
    d.command b (.dropPrimary none) =
      .ok ["alter table \"public\".\"users\" drop constraint \"public\".\"users_pkey\""] ∧
    ¬ OneIdentifier '"' "\"public\".\"users_pkey\"" ∧
    d.command b (.rename "members") = .ok ["alter table \"public\".\"users\" rename to \"members\""] ∧
    OneIdentifier '"' "\"members\"" := by
  intro d b
  have dropped : d.command b (.dropPrimary none) =
      .ok [d.alter b ("drop constraint " ++ "\"public\".\"users_pkey\"")] := ok_of_toOption (by decide)
  have renamed : d.command b (.rename "members") = .ok [d.alter b ("rename to " ++ "\"members\"")] :=
    ok_of_toOption (by decide)
  have altered {front x y : String} (same : [d.alter b (front ++ x)] = [d.alter b (front ++ y)]) : x = y :=
    (String.append_right_inj _).mp ((String.append_right_inj _).mp (List.cons.inj same).1)
  obtain ⟨⟨x, wrote, key⟩, y, wrote', new⟩ := simple_names_iff "" {} b "members"
  obtain rfl : "\"public\".\"users_pkey\"" = x := altered (Except.ok.inj (dropped.symm.trans wrote))
  obtain rfl : "\"members\"" = y := altered (Except.ok.inj (renamed.symm.trans wrote'))
  have dropped_text : d.alter b ("drop constraint " ++ "\"public\".\"users_pkey\"") =
      "alter table \"public\".\"users\" drop constraint \"public\".\"users_pkey\"" := by decide
  have renamed_text : d.alter b ("rename to " ++ "\"members\"") =
      "alter table \"public\".\"users\" rename to \"members\"" := by decide
  refine ⟨dropped_text ▸ dropped, fun single => ?_, renamed_text ▸ renamed,
    new.mpr ⟨by decide, Text.splitAs?_eq_none.mp rfl, by decide⟩⟩
  exact (key.mp single).1 (by decide)

end SchemaDialect
end SqlCompose
