import SqlCompose.Proofs.Deletes
import SqlCompose.Proofs.Quoting.References

/-!
# Qualified columns

A column that is qualified by the alias of a table, or by the name of one without an alias, refers to the
table under the name that the statement declares it by (`qualified_columns_refer`). The same holds of the
table that a delete with joins names in front of `from`.
-/
namespace SqlCompose

open Text (HasAs)

/-- The table is declared under the name: the text is the name, or has it as its alias. -/
def Declares (text name : String) : Prop := text = name ∨ ∃ front, text = front ++ " as " ++ name

/-- A reference ends with a quote or with a star. -/
theorem ReadsReference.last {quote : Char} {cs : List Char} {parts : List Identifier}
    {knownAs : Option Identifier} (read : ReadsReference quote cs parts knownAs) :
    ∃ front, ∃ c ∈ [quote, '*'], cs = front ++ [c] := by
  have identifier {cs : List Char} {i : Identifier} (one : ReadsIdentifier quote cs i) :
      ∃ front, ∃ c ∈ [quote, '*'], cs = front ++ [c] := by
    cases one with
    | star => exact ⟨[], '*', by simp, rfl⟩
    | @quoted body text inner => exact ⟨quote :: body, quote, by simp, rfl⟩
  have behind {cs ds : List Char} (last : ∃ front, ∃ c ∈ [quote, '*'], ds = front ++ [c]) :
      ∃ front, ∃ c ∈ [quote, '*'], cs ++ ds = front ++ [c] := by
    obtain ⟨front, c, kind, rfl⟩ := last
    exact ⟨cs ++ front, c, kind, by simp⟩
  cases read with
  | named dotted one => exact behind (identifier one)
  | unnamed dotted =>
    induction dotted with
    | single one => exact identifier one
    | @dot cs ds i others one rest ih =>
      have whole : cs ++ '.' :: ds = (cs ++ ['.']) ++ ds := by simp
      rw [whole]
      exact behind ih

/-- A prefix without dots stands in front of the first part. -/
theorem dottedParts_front {front : String} (undotted : '.' ∉ front.toList) (s : String) :
    dottedParts (front ++ s) = (dottedParts s).modifyHead (front ++ ·) := by
  rw [dottedParts, String.toList_append, Text.splitAt_front undotted, dottedParts]
  cases Text.splitAt '.' s.toList with
  | nil => rfl
  | cons part parts => simp

/-- Of a name with a qualifier, the first part takes the prefix. -/
theorem qualified_append (tablePrefix : String) {parts others : List String} (some : parts ≠ [])
    (more : others ≠ []) :
    qualified tablePrefix (parts ++ others) = parts.modifyHead (tablePrefix ++ ·) ++ others := by
  cases parts with
  | nil => exact absurd rfl some
  | cons part parts =>
    cases rest : parts ++ others with
    | nil => exact absurd (List.append_eq_nil_iff.mp rest).2 more
    | cons next rest' => simp [rest, qualified]

namespace Quoter

variable {w : Quoter}

theorem tableName_declares (w : Quoter) (name : String) :
    Declares (w.tableName name) (w.tableAlias (.name name)) := by
  unfold Declares tableAlias
  dsimp only
  cases split : splitAlias? name with
  | none => exact .inl rfl
  | some texts =>
    obtain ⟨base, knownAs⟩ := texts
    refine .inr ⟨w.tableParts (w.tablePrefix ++ base), ?_⟩
    simp only [tableName, split]

/-- The name of a table stands whole behind a space. -/
theorem spaced_tableName (apart : w.quote ∉ ['*', '.', ' ']) (shown : Text.isBlank w.quote = false)
    (name : String) : Text.spaced (Text.trimEnd (w.tableName name)) = " " ++ w.tableName name := by
  obtain ⟨base, knownAs, spelled, -⟩ := name_spelled name
  have read := (tableName_reads apart spelled _ _).mpr ⟨rfl, rfl⟩
  obtain ⟨front, c, kind, chars⟩ := read.last
  have visible : Text.isBlank c = false := by
    simp only [List.mem_cons, List.not_mem_nil, or_false] at kind
    rcases kind with rfl | rfl
    · exact shown
    · decide
  have kept : Text.trimEnd (w.tableName name) = w.tableName name := by
    rw [← String.toList_inj, Text.trimEnd, String.toList_ofList, chars]
    exact List.rdropWhile_concat_neg _ _ _ (by simp [visible])
  have some : w.tableName name ≠ "" := by
    intro empty
    rw [empty] at chars
    simp at chars
  rw [kept, Text.spaced, if_neg some]

/-- A column behind a qualifier is written behind the parts of the qualifier as a table. -/
theorem columnName_qualified (undotted : '.' ∉ w.tablePrefix.toList) {qualifier column : String}
    (unnamed : ¬ HasAs qualifier.toList) (single : '.' ∉ column.toList) (unnamed' : ¬ HasAs column.toList) :
    w.columnName (qualifier ++ "." ++ column) =
      w.tableParts (w.tablePrefix ++ qualifier) ++ "." ++ w.part column := by
  have whole : (qualifier ++ "." ++ column).toList = qualifier.toList ++ '.' :: column.toList := by simp
  have never : splitAlias? (qualifier ++ "." ++ column) = none := by
    rw [splitAlias?, Option.map_eq_none_iff, Text.splitAs?_eq_none, whole, Text.hasAs_parted (by decide)]
    exact not_or.mpr ⟨unnamed, unnamed'⟩
  have parts : dottedParts (qualifier ++ "." ++ column) = dottedParts qualifier ++ [column] := by
    simp [dottedParts, whole, Text.splitAt_parted, Text.splitAt_of_not_mem single]
  have some : dottedParts qualifier ≠ [] := by
    rw [dottedParts_eq]
    exact betweenDots_ne_nil qualifier
  have first : ((dottedParts qualifier).modifyHead (w.tablePrefix ++ ·)).map w.part ≠ [] := by
    simpa using some
  simp only [columnName, never]
  rw [columnParts_eq, columnTexts_eq, ← dottedParts_eq, parts, qualified_append _ some (by simp),
    List.map_append, Text.joinWith_append "." first (by simp), tableParts, dottedParts_front undotted]
  rfl

end Quoter

/-- The statement deletes from the table under the name that it is declared by behind `from`. -/
def DeletesDeclared (w : Quoter) (table sql : String) : Prop :=
  Declares (w.table (.name table)) (w.tableAlias (.name table)) ∧ ∃ rest,
    sql = "delete " ++ w.tableAlias (.name table) ++ " from " ++ w.table (.name table) ++ Text.spaced rest

theorem QueryDialect.delete_declares {tablePrefix name : String} {q : Query} {f : Fragment}
    (named : q.table = some (.name name)) (joined : q.joins ≠ [])
    (written : (mySql tablePrefix).delete q = .ok f) :
    DeletesDeclared (mySql tablePrefix).quoter name f.sql := by
  obtain ⟨table, joins, conditions, same, -, -, text, -⟩ := delete_multiTable rfl joined written
  obtain rfl : table = .name name := by simpa [named, eq_comm] using same
  have whole := Quoter.spaced_tableName (w := (mySql tablePrefix).quoter) (by simp [mySql])
    (by simp [mySql]; decide) name
  refine ⟨Quoter.tableName_declares _ name,
    concatenate [(Fragment.joinWith " " joins).sql, conditions.sql], ?_⟩
  rw [text, delete_name_from]
  simp only [Quoter.table, whole]
  simp [← String.toList_inj]

namespace Quoter

/-- A table is declared under the name that the rest of a statement knows it by, which is also the one that
a delete with joins names. A column behind the alias of the table, or behind the name of a table without
one, is qualified by that name. -/
theorem qualified_columns_refer (w : Quoter) (undotted : '.' ∉ w.tablePrefix.toList) (table column : String)
    (single : '.' ∉ column.toList) (unnamed : ¬ HasAs column.toList) :
    Declares (w.table (.name table)) (w.tableAlias (.name table)) ∧
    (∀ q f, q.table = some (.name table) → q.joins ≠ [] →
      (QueryDialect.mySql w.tablePrefix).delete q = .ok f →
      DeletesDeclared (QueryDialect.mySql w.tablePrefix).quoter table f.sql) ∧
    (∀ base knownAs, Spelled table base (some knownAs) → '.' ∉ knownAs.toList → ¬ HasAs knownAs.toList →
      w.columnName (knownAs ++ "." ++ column) = w.tableAlias (.name table) ++ "." ++ w.part column) ∧
    (¬ HasAs table.toList →
      w.columnName (table ++ "." ++ column) = w.table (.name table) ++ "." ++ w.part column) := by
  refine ⟨tableName_declares w table, fun q f named joined written => ?_,
    fun base knownAs spelled single' unnamed' => ?_, fun unnamed' => ?_⟩
  · exact QueryDialect.delete_declares named joined written
  · have dotless : '.' ∉ (w.tablePrefix ++ knownAs).toList := by simp [undotted, single']
    have alone : dottedParts (w.tablePrefix ++ knownAs) = [w.tablePrefix ++ knownAs] := by
      rw [dottedParts, Text.splitAt_of_not_mem dotless, List.map_singleton, String.ofList_toList]
    rw [columnName_qualified undotted unnamed' single unnamed]
    simp [tableAlias, spelled_some_iff.mp spelled, tableParts, alone]
  · have split := (spelled_none_iff.mp (.plain unnamed')).1
    rw [columnName_qualified undotted unnamed' single unnamed]
    simp only [Quoter.table, tableName, split]

/-- Users of a shop under an alias, joined with their orders. -/
def shopUsers : Query where
  table := some (.name "shop.users AS u")
  joins := [⟨.inner, .name "orders",
    [⟨.and, .compareColumns (.name "u.id") "=" (.name "orders.user_id")⟩]⟩]

/-- The users are declared and deleted as `app_u`, and a column `u.id` is one of theirs; without an alias a
column is qualified by the dotted name. -/
theorem qualified_columns_refer_shopUsers :
    let w : Quoter := ⟨'\x60', "app_"⟩
    '.' ∉ w.tablePrefix.toList ∧ '.' ∉ "id".toList ∧ ¬ HasAs "id".toList ∧
    w.table (.name "shop.users AS u") = "`app_shop`.`users` as `app_u`" ∧
    Declares "`app_shop`.`users` as `app_u`" "`app_u`" ∧
    (∃ f, (QueryDialect.mySql w.tablePrefix).delete shopUsers = .ok f ∧
      f.sql = "delete `app_u` from `app_shop`.`users` as `app_u` " ++
        "inner join `app_orders` on `app_u`.`id` = `app_orders`.`user_id`" ∧
      DeletesDeclared w "shop.users AS u" f.sql) ∧
    w.columnName "u.id" = "`app_u`" ++ "." ++ w.part "id" ∧
    w.columnName "shop.users.id" = w.table (.name "shop.users") ++ "." ++ w.part "id" := by
  intro w
  have undotted : '.' ∉ w.tablePrefix.toList := by decide
  have single : '.' ∉ "id".toList := by decide
  have unnamed : ¬ HasAs "id".toList := Text.splitAs?_eq_none.mp rfl
  have table : w.table (.name "shop.users AS u") = "`app_shop`.`users` as `app_u`" := by decide
  have known : w.tableAlias (.name "shop.users AS u") = "`app_u`" := by decide
  have spelled : Spelled "shop.users AS u" "shop.users" (some "u") := spelled_some_iff.mpr (by decide)
  obtain ⟨declares, deletes, aliased, -⟩ :=
    qualified_columns_refer w undotted "shop.users AS u" "id" single unnamed
  obtain ⟨-, -, -, plain⟩ := qualified_columns_refer w undotted "shop.users" "id" single unnamed
  have written : ((QueryDialect.mySql w.tablePrefix).delete shopUsers).toOption.map (·.sql) =
      some ("delete `app_u` from `app_shop`.`users` as `app_u` " ++
        "inner join `app_orders` on `app_u`.`id` = `app_orders`.`user_id`") := by decide
  obtain ⟨f, done, text⟩ := success_of_toOption written
  have deleted := deletes shopUsers f rfl (by simp [shopUsers]) done
  have reference := aliased "shop.users" "u" spelled (by decide) (Text.splitAs?_eq_none.mp rfl)
  rw [table, known] at declares
  rw [known] at reference
  exact ⟨undotted, single, unnamed, table, declares, ⟨f, done, text, deleted⟩, reference,
    plain (Text.splitAs?_eq_none.mp rfl)⟩

end Quoter
end SqlCompose
