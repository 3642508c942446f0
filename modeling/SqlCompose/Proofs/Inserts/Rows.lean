import SqlCompose.Dialect.MySql
import SqlCompose.Dialect.Postgres
import SqlCompose.Proofs.Inserts.Insertion
import SqlCompose.Proofs.Listing.Checked

/-!
# Rows of an insert

An insert lists its rows or writes one row of defaults. The first row alone decides which, so the rows
behind a first row without columns are not in the statement; in every other case each row is, with its
values (`inserts_keep_rows_iff`).
-/
namespace SqlCompose

/-- A value is written as a placeholder, trusted SQL as it is. -/
def Operand.text : Operand → String
  | .value _ => "?"
  | .raw sql => sql.text

/-- What goes into a table: a row of defaults, or the listed rows. -/
inductive InsertForm where
  | defaults
  | listed (columns : List String) (tuples : List (List Operand))

namespace InsertForm

/-- The rows that are written, with the operands of each. -/
def rows : InsertForm → List (List Operand)
  | .defaults => [[]]
  | .listed _ tuples => tuples

def tupleText (tuple : List Operand) : String :=
  "(" ++ Text.joinWith ", " (tuple.map Operand.text) ++ ")"

def text (w : Quoter) : InsertForm → String
  | .defaults => "default values"
  | .listed columns tuples => "(" ++ Text.joinWith ", " (columns.map w.columnName) ++ ") values " ++
    Text.joinWith ", " (tuples.map tupleText)

/-- The table and what goes into it, with the values of the rows one after another. -/
def into (form : InsertForm) (w : Quoter) (table : Ident) : Fragment :=
  ⟨w.table table ++ " " ++ form.text w, form.rows.flatten.flatMap Operand.values⟩

/-- The form for rows of which the first is given. -/
def of (first : Row) (others : List Row) : InsertForm :=
  if first.isEmpty then .defaults else .listed first.columns ((first :: others).map Row.operands)

/-- Each of the given rows is written, in their order and with its own operands. -/
def Keeps (form : InsertForm) (given : List Row) : Prop := form.rows = given.map Row.operands

theorem Keeps.values {form : InsertForm} {given : List Row} (kept : form.Keeps given) (w : Quoter)
    (table : Ident) : (form.into w table).bindings = given.flatMap Row.values := by
  show form.rows.flatten.flatMap Operand.values = _
  rw [kept, ← List.flatMap_def, List.flatMap_assoc]
  rfl

/-- Only rows behind one without columns are lost. -/
theorem of_keeps_iff (first : Row) (others : List Row) :
    (of first others).Keeps (first :: others) ↔ first.isEmpty = false ∨ others = [] := by
  unfold of Keeps
  by_cases empty : first.isEmpty = true
  · rw [if_pos empty]
    have nothing : first.operands = [] := by
      rw [Row.operands, List.isEmpty_iff.mp empty, List.map_nil]
    simp [rows, empty, nothing, eq_comm]
  · rw [if_neg empty]
    simp [rows, empty]

end InsertForm

namespace QueryDialect

variable {d : QueryDialect} {q : Query} {table : Ident} {first : Row} {others : List Row}

theorem operand_sql (slots : d.slots = .positional) (o : Operand) : (d.operand o).sql = o.text := by
  cases o with
  | value v =>
    show d.slots.mark v = "?"
    rw [slots]
    rfl
  | raw sql => rfl

theorem tuple_eq (slots : d.slots = .positional) (row : Row) :
    d.tuple row = ⟨InsertForm.tupleText row.operands, row.values⟩ := by
  refine Fragment.ext ?_ ?_
  · show "(" ++ Text.joinWith ", " ((row.operands.map d.operand).map Fragment.sql) ++ ")" = _
    rw [List.map_map]
    exact congrArg (fun texts => "(" ++ Text.joinWith ", " texts ++ ")")
      (List.map_congr_left fun o _ => operand_sql slots o)
  · exact bindings_operands row.operands

theorem insertion_form (slots : d.slots = .positional) (first : Row) (others : List Row) :
    d.insertion (d.quoter.table table) (first :: others) =
      (InsertForm.of first others).into d.quoter table := by
  rw [insertion, InsertForm.of]
  by_cases empty : first.isEmpty = true
  · rw [if_pos empty, if_pos empty]
    refine Fragment.ext ?_ rfl
    show _ = d.quoter.table table ++ " " ++ "default values"
    rw [String.append_assoc]
    rfl
  · rw [if_neg empty, if_neg empty, List.map_congr_left fun row _ => tuple_eq slots row]
    refine Fragment.ext ?_ ?_
    · simp [InsertForm.into, InsertForm.text, Fragment.joinWith, Quoter.columnNames,
        Function.comp_def, ← String.toList_inj]
    · have kept : (InsertForm.listed first.columns ((first :: others).map Row.operands)).Keeps
          (first :: others) := rfl
      rw [kept.values]
      simp [Fragment.joinWith, Fragment.allBindings, List.flatMap_map]

/-! ## The forms of a statement -/

section

variable (slots : d.slots = .positional) (named : q.table = some table)

include slots named

theorem insert_form (first : Row) (others : List Row) : d.insert q (first :: others) =
    .ok ("insert into " ++ (InsertForm.of first others).into d.quoter table) := by
  rw [insert_eq, target, named, ← insertion_form slots first others]
  rfl

theorem insertOrIgnore_keyword_form (ignores : d.insertIgnore = some .keyword) (first : Row)
    (others : List Row) : d.insertOrIgnore q (first :: others) =
      .ok ("insert ignore into " ++ (InsertForm.of first others).into d.quoter table) := by
  rw [insertOrIgnore_keyword ignores, target, named, ← insertion_form slots first others]
  rfl

theorem insertOrIgnore_conflictClause_form (ignores : d.insertIgnore = some .conflictClause)
    (first : Row) (others : List Row) : d.insertOrIgnore q (first :: others) =
      .ok ("insert into " ++ (InsertForm.of first others).into d.quoter table ++
        " on conflict do nothing") := by
  rw [insertOrIgnore_conflictClause ignores, target, named, ← insertion_form slots first others]
  rfl

theorem insertGetId_form (row : Row) (key : Option String) : d.insertGetId q row key =
    .ok ("insert into " ++ (InsertForm.of row []).into d.quoter table ++
      if d.returnsKey then " returning " ++ d.quoter.columnName (key.getD "id") else "") := by
  unfold insertGetId
  rw [insert_form slots named]
  by_cases returns : d.returnsKey = true
  · simp only [returns, if_true]
    rfl
  · simp only [returns, Bool.false_eq_true, if_false]
    exact congrArg Except.ok (Fragment.ext (String.append_empty).symm rfl)

end

/-- Every form of an insert writes each given row with its values, unless the first row has no columns
and others follow: then one row of defaults stands for all. An insert of one row keeps it. -/
theorem inserts_keep_rows_iff (named : q.table = some table) (first : Row) (others : List Row) :
    ∃ form : InsertForm,
      (form.Keeps (first :: others) ↔ first.isEmpty = false ∨ others = []) ∧
      (form.Keeps (first :: others) → ∀ w,
        (form.into w table).bindings = (first :: others).flatMap Row.values) ∧
      (first.isEmpty = true → form = .defaults) ∧
      (∀ d : QueryDialect, d.slots = .positional →
        d.insert q (first :: others) = .ok ("insert into " ++ form.into d.quoter table) ∧
        (others = [] → ∀ key, d.insertGetId q first key = .ok ("insert into " ++
          form.into d.quoter table ++
            if d.returnsKey then " returning " ++ d.quoter.columnName (key.getD "id") else ""))) ∧
      ∀ tablePrefix,
        (mySql tablePrefix).insertOrIgnore q (first :: others) =
          .ok ("insert ignore into " ++ form.into (mySql tablePrefix).quoter table) ∧
        (postgres tablePrefix).insertOrIgnore q (first :: others) = .ok ("insert into " ++
          form.into (postgres tablePrefix).quoter table ++ " on conflict do nothing") := by
  refine ⟨.of first others, InsertForm.of_keeps_iff first others, fun kept w => kept.values w table,
    fun empty => if_pos empty, fun d slots => ⟨insert_form slots named first others, ?_⟩,
    fun tablePrefix => ⟨insertOrIgnore_keyword_form rfl named rfl first others,
      insertOrIgnore_conflictClause_form rfl named rfl first others⟩⟩
  rintro rfl key
  exact insertGetId_form slots named first key

/-- The name of the second row is not in the statement. -/
theorem inserts_keep_rows_iff_namedBehindEmpty : ∃ form : InsertForm,
    (mySql "").insert { table := some (.name "users") }
        [.ofList [], .ofList [("name", .value (.string "x"))]] =
      .ok ("insert into " ++ form.into (mySql "").quoter (.name "users")) ∧
    (form.into (mySql "").quoter (.name "users")).sql = "`users` default values" ∧
    ¬ form.Keeps [.ofList [], .ofList [("name", .value (.string "x"))]] := by
  obtain ⟨form, keeps, -, defaults, written, -⟩ :=
    inserts_keep_rows_iff (q := { table := some (.name "users") }) rfl (.ofList [])
      [.ofList [("name", .value (.string "x"))]]
  have taken : form = .defaults := defaults rfl
  refine ⟨form, (written (mySql "") rfl).1, ?_, ?_⟩
  · rw [taken]
    decide
  · rw [keeps]
    simp [Row.isEmpty, Row.ofList, Keyed.ofList]

end QueryDialect
end SqlCompose
