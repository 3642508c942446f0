import SqlCompose.Proofs.Fragments
import SqlCompose.Write

/-!
# What an insert inserts

The forms of an insert have one part in common, the table with the columns and rows that go into it
(`insertion`). They differ in what stands before and behind it: the form that is made by a replacement
in the written text has other first words and nothing else changed (`insertOrIgnore_keyword`).
-/
namespace SqlCompose.QueryDialect

/-- The table of an insert and what goes into it. -/
def insertion (d : QueryDialect) (table : String) : List Row → Fragment
  | [] => .ofText (table ++ " default values")
  | first :: others =>
    if first.isEmpty then .ofText (table ++ " default values")
    else table ++ " (" ++ d.quoter.columnNames first.columns ++ ") values " ++
      Fragment.joinWith ", " ((first :: others).map d.tuple)

variable {d : QueryDialect}

theorem insert_eq (q : Query) (rows : List Row) : d.insert q rows =
    (d.target .insert q).map fun table => "insert into " ++ d.insertion table rows := by
  have defaults (table : String) : Fragment.ofText ("insert into " ++ table ++ " default values") =
      "insert into " ++ Fragment.ofText (table ++ " default values") :=
    Fragment.ext (String.append_assoc ..) rfl
  have listed (table names : String) (tuples : Fragment) :
      "insert into " ++ table ++ " (" ++ names ++ ") values " ++ tuples =
        "insert into " ++ (table ++ " (" ++ names ++ ") values " ++ tuples) := by
    apply Fragment.ext <;> simp [String.append_assoc]
  unfold insert insertion
  cases d.target .insert q with
  | error e => rfl
  | ok table =>
    cases rows with
    | nil => exact congrArg Except.ok (defaults table)
    | cons first others =>
      by_cases empty : first.isEmpty = true
      · simp only [empty, if_true]
        exact congrArg Except.ok (defaults table)
      · simp only [empty, Bool.false_eq_true, if_false]
        exact congrArg Except.ok (listed table _ _)

theorem insertOrIgnore_keyword (ignores : d.insertIgnore = some .keyword) (q : Query)
    (rows : List Row) : d.insertOrIgnore q rows =
      (d.target .insert q).map fun table => "insert ignore into " ++ d.insertion table rows := by
  have replaced (s : String) : String.ofList (Text.replaceFirst "insert".toList
      "insert ignore".toList ("insert into " ++ s).toList) = "insert ignore into " ++ s := by
    have parted : ("insert into " ++ s).toList = "insert".toList ++ (" into " ++ s).toList := by simp
    rw [parted, Text.replaceFirst_front, ← String.toList_inj, String.toList_ofList]
    simp
  unfold insertOrIgnore
  rw [ignores]
  dsimp only
  rw [insert_eq]
  cases d.target .insert q with
  | error e => rfl
  | ok table => exact congrArg Except.ok (Fragment.ext (replaced _) rfl)

theorem insertOrIgnore_conflictClause (ignores : d.insertIgnore = some .conflictClause) (q : Query)
    (rows : List Row) : d.insertOrIgnore q rows = (d.target .insert q).map fun table =>
      "insert into " ++ d.insertion table rows ++ " on conflict do nothing" := by
  unfold insertOrIgnore
  rw [ignores]
  dsimp only
  rw [insert_eq]
  cases d.target .insert q with
  | error e => rfl
  | ok table => rfl

end SqlCompose.QueryDialect
