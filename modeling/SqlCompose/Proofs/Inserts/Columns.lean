import Mathlib.Data.List.Sort
import SqlCompose.Proofs.Inserts.Rows

/-!
# Columns of inserted rows

Rows with the same columns go into a statement as a table: one tuple for each row, one operand for each
column, all in the order of the columns. The values follow row by row, so each stands for the
placeholder that was written for it (`inserts_by_column`).
-/
namespace SqlCompose

def Operand.isValue : Operand → Bool
  | .value _ => true
  | .raw _ => false

theorem Operand.length_values (operands : List Operand) :
    (operands.flatMap Operand.values).length = operands.countP Operand.isValue := by
  induction operands with
  | nil => rfl
  | cons operand operands ih =>
    rw [List.flatMap_cons, List.length_append, ih]
    cases operand with
    | value v => simp [values, isValue, List.countP_cons, Nat.add_comm]
    | raw sql => simp [values, isValue]

namespace Row

/-- What a row has for a column. -/
def entry? (row : Row) (column : String) : Option Operand := row.entries.lookup column

theorem columns_sorted (row : Row) : row.columns.Pairwise (· < ·) := List.pairwise_map.mpr row.sorted

/-- The columns of a row are known by what they are, as their order is fixed. -/
theorem columns_eq {row : Row} {columns : List String} (sorted : columns.Pairwise (· < ·))
    (same : ∀ column, column ∈ row.columns ↔ column ∈ columns) : row.columns = columns := by
  have apart {names : List String} (sorted : names.Pairwise (· < ·)) : names.Nodup := by
    refine List.Pairwise.imp ?_ sorted
    rintro a _ below rfl
    exact String.lt_irrefl a below
  have regrouped := (List.perm_ext_iff_of_nodup (apart row.columns_sorted) (apart sorted)).mpr same
  refine regrouped.eq_of_pairwise ?_ row.columns_sorted sorted
  intro a b _ _ below above
  exact absurd (String.lt_trans below above) (String.lt_irrefl a)

theorem lookup_of_mem {entries : List (String × Operand)} (sorted : Keyed.Sorted entries)
    {e : String × Operand} (member : e ∈ entries) : entries.lookup e.1 = some e.2 := by
  induction entries with
  | nil => cases member
  | cons first entries ih =>
    obtain ⟨below, sorted⟩ := List.pairwise_cons.mp sorted
    rcases List.mem_cons.mp member with rfl | later
    · exact List.lookup_cons_self
    · have other : (e.1 == first.1) = false := by
        rw [beq_eq_false_iff_ne]
        intro same
        exact String.lt_irrefl _ (same ▸ below e later)
      rw [List.lookup_cons, other]
      exact ih sorted later

/-- The operands of a row stand in the order of its columns. -/
theorem operands_by_column (row : Row) :
    List.Forall₂ (fun column operand => row.entry? column = some operand) row.columns row.operands := by
  unfold columns operands
  rw [List.forall₂_map_left_iff, List.forall₂_map_right_iff, List.forall₂_same]
  exact fun e member => lookup_of_mem row.sorted member

/-- Rows that all have the columns, which are in code-point order, and no others. -/
structure Share (columns : List String) (rows : List Row) : Prop where
  sorted : columns.Pairwise (· < ·)
  some_column : columns ≠ []
  some_row : rows ≠ []
  same : ∀ row ∈ rows, ∀ column, column ∈ row.columns ↔ column ∈ columns

namespace Share

variable {columns : List String} {rows : List Row} {row : Row} (shared : Share columns rows)
  (member : row ∈ rows)

include shared member

theorem columns_eq : row.columns = columns := Row.columns_eq shared.sorted (shared.same row member)

theorem not_isEmpty : row.isEmpty = false := by
  rw [isEmpty, List.isEmpty_eq_false_iff]
  intro nothing
  refine shared.some_column ?_
  rw [← shared.columns_eq member, Row.columns, nothing, List.map_nil]

theorem operands_by_column :
    List.Forall₂ (fun column operand => row.entry? column = some operand) columns row.operands :=
  shared.columns_eq member ▸ row.operands_by_column

/-- What a row has for a column stands in the place of the column. -/
theorem operand_at {j : Nat} {column : String} {operand : Operand}
    (at_j : columns[j]? = some column) (held : row.entry? column = some operand) :
    row.operands[j]? = some operand := by
  have paired := shared.operands_by_column member
  obtain ⟨inside, rfl⟩ := List.getElem?_eq_some_iff.mp at_j
  have inside' : j < row.operands.length := paired.length_eq ▸ inside
  have there := paired.get inside inside'
  rw [List.get_eq_getElem, List.get_eq_getElem, held] at there
  rw [List.getElem?_eq_getElem inside']
  exact there.symm

end Share

/-- The values before an operand are as many as the placeholders written before it. -/
theorem values_at {rows : List Row} {i j : Nat} {row : Row} {v : Value} (given : rows[i]? = some row)
    (held : row.operands[j]? = some (.value v)) :
    (rows.flatMap values)[((rows.take i).flatMap operands ++ row.operands.take j).countP
      Operand.isValue]? = some v := by
  have parted {α : Type} {items : List α} {k : Nat} {item : α} (at_k : items[k]? = some item) :
      items = items.take k ++ item :: items.drop (k + 1) := by
    obtain ⟨inside, rfl⟩ := List.getElem?_eq_some_iff.mp at_k
    rw [← List.drop_eq_getElem_cons inside, List.take_append_drop]
  have all : rows.flatMap operands = ((rows.take i).flatMap operands ++ row.operands.take j) ++
      .value v :: (row.operands.drop (j + 1) ++ (rows.drop (i + 1)).flatMap operands) := by
    calc rows.flatMap operands
        = (rows.take i ++ row :: rows.drop (i + 1)).flatMap operands := by rw [← parted given]
      _ = (rows.take i).flatMap operands ++ (row.operands ++ (rows.drop (i + 1)).flatMap operands) := by
          rw [List.flatMap_append, List.flatMap_cons]
      _ = (rows.take i).flatMap operands ++ ((row.operands.take j ++
            .value v :: row.operands.drop (j + 1)) ++ (rows.drop (i + 1)).flatMap operands) := by
          rw [← parted held]
      _ = _ := by simp
  have listed : rows.flatMap values = (rows.flatMap operands).flatMap Operand.values :=
    List.flatMap_assoc.symm
  rw [listed, all, ← Operand.length_values, List.flatMap_append, List.flatMap_cons]
  simp [Operand.values]

end Row

namespace QueryDialect

variable {d : QueryDialect} {q : Query} {table : Ident} {columns : List String} {rows : List Row}
  {first : Row} {others : List Row}

/-- An assignment as it is written, its value as a placeholder. -/
def assignmentText (d : QueryDialect) : Assignment → String
  | .inserted column =>
    d.quoter.columnName column ++ " = values(" ++ d.quoter.columnName column ++ ")"
  | .set column operand => d.quoter.columnName column ++ " = " ++ operand.text

def assignmentValues : Assignment → List Value
  | .inserted _ => []
  | .set _ operand => operand.values

/-- Rows as a table under the columns: a tuple for each row, and the values row by row. -/
def tabular (w : Quoter) (table : Ident) (columns : List String) (rows : List Row) : Fragment :=
  ⟨w.table table ++ " (" ++ Text.joinWith ", " (columns.map w.columnName) ++ ") values " ++
    Text.joinWith ", " (rows.map fun row => InsertForm.tupleText row.operands),
    rows.flatMap Row.values⟩

theorem into_shared (shared : Row.Share columns (first :: others)) (w : Quoter) (table : Ident) :
    (InsertForm.of first others).into w table = tabular w table columns (first :: others) := by
  have first_row : first ∈ first :: others := List.mem_cons_self
  have listed : InsertForm.of first others =
      .listed columns ((first :: others).map Row.operands) := by
    rw [InsertForm.of, if_neg (by simp [shared.not_isEmpty first_row]), shared.columns_eq first_row]
  have kept : (InsertForm.of first others).Keeps (first :: others) := by
    rw [listed]
    rfl
  refine Fragment.ext ?_ (kept.values w table)
  simp [InsertForm.into, InsertForm.text, tabular, listed, Function.comp_def, ← String.toList_inj]

theorem assignment_eq (slots : d.slots = .positional) (a : Assignment) :
    d.assignment a = ⟨d.assignmentText a, assignmentValues a⟩ := by
  cases a with
  | inserted column => rfl
  | set column operand =>
    refine Fragment.ext ?_ (bindings_operand operand)
    exact congrArg (d.quoter.columnName column ++ " = " ++ ·) (operand_sql slots operand)

/-- An upsert with assignments is an insert with them behind it. -/
theorem upsert_form (slots : d.slots = .positional) (named : q.table = some table)
    (upserts : d.upserts = true) (some_column : first.isEmpty = false) {update : List Assignment}
    (some : update ≠ []) : d.upsert q (first :: others) update =
      .ok ("insert into " ++ (InsertForm.of first others).into d.quoter table ++
        " on duplicate key update " ++ ⟨Text.joinWith ", " (update.map d.assignmentText),
          update.flatMap assignmentValues⟩) := by
  have assigned : Fragment.joinWith ", " (update.map d.assignment) =
      ⟨Text.joinWith ", " (update.map d.assignmentText), update.flatMap assignmentValues⟩ := by
    rw [List.map_congr_left fun a _ => assignment_eq slots a]
    refine Fragment.ext ?_ ?_
    · simp [Fragment.joinWith, Function.comp_def]
    · simp [Fragment.joinWith, Fragment.allBindings, List.flatMap_map]
  have some_update : update.isEmpty = false := by simpa using some
  have inserted := insert_form slots named first others
  unfold upsert
  simp only [upserts, if_true, some_column, some_update, inserted, assigned]
  rfl

/-- Rows with the same columns are inserted as a table under them: each tuple has what its row has for
each column, in the order of the columns, and each value stands where its placeholder is counted. The
other forms of an insert put fixed words before or behind it, and an upsert its assignments. -/
theorem inserts_by_column (shared : Row.Share columns rows) (named : q.table = some table) :
    (∀ row ∈ rows, List.Forall₂ (fun column operand => row.entry? column = some operand)
      columns row.operands) ∧
    (∀ i j row column v, rows[i]? = some row → columns[j]? = some column →
      row.entry? column = some (.value v) →
        (rows.flatMap Row.values)[((rows.take i).flatMap Row.operands ++
          row.operands.take j).countP Operand.isValue]? = some v) ∧
    (∀ d : QueryDialect, d.slots = .positional →
      d.insert q rows = .ok ("insert into " ++ tabular d.quoter table columns rows) ∧
      ∀ row key, rows = [row] → d.insertGetId q row key = .ok ("insert into " ++
        tabular d.quoter table columns rows ++
          if d.returnsKey then " returning " ++ d.quoter.columnName (key.getD "id") else "")) ∧
    ∀ tablePrefix,
      (mySql tablePrefix).insertOrIgnore q rows =
        .ok ("insert ignore into " ++ tabular (mySql tablePrefix).quoter table columns rows) ∧
      (postgres tablePrefix).insertOrIgnore q rows = .ok ("insert into " ++
        tabular (postgres tablePrefix).quoter table columns rows ++ " on conflict do nothing") ∧
      ∀ update, update ≠ [] → (mySql tablePrefix).upsert q rows update =
        .ok ("insert into " ++ tabular (mySql tablePrefix).quoter table columns rows ++
          " on duplicate key update " ++
            ⟨Text.joinWith ", " (update.map (mySql tablePrefix).assignmentText),
              update.flatMap assignmentValues⟩) := by
  refine ⟨fun _ => shared.operands_by_column, ?_, ?_⟩
  · intro i j row column v given at_j held
    have member := List.mem_of_getElem? given
    exact Row.values_at given (shared.operand_at member at_j held)
  · cases rows with
    | nil => exact absurd rfl shared.some_row
    | cons first others =>
      simp only [← into_shared shared]
      refine ⟨fun d slots => ⟨insert_form slots named first others, ?_⟩, fun tablePrefix =>
        ⟨insertOrIgnore_keyword_form rfl named rfl first others,
          insertOrIgnore_conflictClause_form rfl named rfl first others, fun _ some =>
          upsert_form rfl named rfl (shared.not_isEmpty List.mem_cons_self) some⟩⟩
      rintro row key alone
      obtain ⟨rfl, rfl⟩ := List.cons.inj alone
      exact insertGetId_form slots named first key

/-- Two rows whose operands are of different kinds in each column. -/
def crossedRows : List Row :=
  [.ofList [("insert", .value (.int 1)), ("at", .raw ⟨"now()"⟩)],
    .ofList [("at", .value (.int 2)), ("insert", .raw ⟨"default"⟩)]]

theorem crossedRows_share : Row.Share ["at", "insert"] crossedRows where
  sorted := by decide
  some_column := by simp
  some_row := by simp [crossedRows]
  same := by
    have columns : ∀ row ∈ crossedRows, row.columns = ["at", "insert"] := by decide
    intro row member column
    rw [columns row member]

/-- The names of the table and of a column are the word that is replaced. -/
theorem inserts_by_column_crossedRows : ∃ f g,
    (mySql "").insertOrIgnore { table := some (.name "insert") } crossedRows = .ok f ∧
    f.sql = "insert ignore into `insert` (`at`, `insert`) values (now(), ?), (?, default)" ∧
    f.bindings = [.int 1, .int 2] ∧
    (mySql "").upsert { table := some (.name "insert") } crossedRows
      [.inserted "at", .set "insert" (.value (.int 3))] = .ok g ∧
    g.sql = "insert into `insert` (`at`, `insert`) values (now(), ?), (?, default) " ++
      "on duplicate key update `at` = values(`at`), `insert` = ?" ∧
    g.bindings = [.int 1, .int 2, .int 3] := by
  obtain ⟨-, -, -, forms⟩ := inserts_by_column (q := { table := some (.name "insert") })
    crossedRows_share rfl
  obtain ⟨ignoring, -, upserting⟩ := forms ""
  exact ⟨_, _, ignoring, by decide, rfl, upserting _ (by simp), by decide, rfl⟩

end QueryDialect
end SqlCompose
