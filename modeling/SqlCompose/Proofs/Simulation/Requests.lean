import SqlCompose.Proofs.Simulation.Insert

/-!
# Simulation of requests

A request is any of the statements on rows that a dialect writes. Under a simulation, corresponding
requests are written as related statements or fail alike (`WriteSimulation.write`), so a property of
all statements is proved by giving its relation.
-/
namespace SqlCompose

inductive Request where
  | select (query : Query)
  | selectExists (query : Query)
  | insert (into : Query) (rows : List Row)
  | insertOrIgnore (into : Query) (rows : List Row)
  | insertGetId (into : Query) (row : Row) (key : Option String)
  | insertUsing (into : Query) (columns : List Ident) (source : Query)
  | update (query : Query) (values : Row)
  | delete (query : Query)
  | upsert (into : Query) (rows : List Row) (update : List Assignment)
  | truncate (query : Query)

/-- The statements that a request is written as. -/
def QueryDialect.write (d : QueryDialect) : Request → Except CompileError (List Fragment)
  | .select q => do return [← d.select q]
  | .selectExists q => do return [← d.selectExists q]
  | .insert into rows => do return [← d.insert into rows]
  | .insertOrIgnore into rows => do return [← d.insertOrIgnore into rows]
  | .insertGetId into row key => do return [← d.insertGetId into row key]
  | .insertUsing into columns source => do return [← d.insertUsing into columns source]
  | .update q values => do return [← d.update q values]
  | .delete q => do return [← d.delete q]
  | .upsert into rows update => do return [← d.upsert into rows update]
  | .truncate q => d.truncateTable q

/-- Corresponding requests are of one kind and of corresponding parts. Of a query that rows are
inserted into, and of one that is emptied, only the table counts. -/
inductive Correspondence.Requests (c : Correspondence) : Request → Request → Prop
  | select {q q' : Query} (related : c.Queries q q') : Requests c (.select q) (.select q')
  | selectExists {q q' : Query} (related : c.Queries q q') :
    Requests c (.selectExists q) (.selectExists q')
  | insert {q q' : Query} {rows rows' : List Row} (into : Option.Rel c.Tables q.table q'.table)
    (given : List.Forall₂ c.Rows rows rows') : Requests c (.insert q rows) (.insert q' rows')
  | insertOrIgnore {q q' : Query} {rows rows' : List Row}
    (into : Option.Rel c.Tables q.table q'.table) (given : List.Forall₂ c.Rows rows rows') :
    Requests c (.insertOrIgnore q rows) (.insertOrIgnore q' rows')
  | insertGetId {q q' : Query} {row row' : Row} {key key' : Option String}
    (into : Option.Rel c.Tables q.table q'.table) (given : c.Rows row row')
    (asked : Option.Rel c.column key key') :
    Requests c (.insertGetId q row key) (.insertGetId q' row' key')
  | insertUsing {q q' source source' : Query} {columns columns' : List Ident}
    (into : Option.Rel c.Tables q.table q'.table) (listed : List.Forall₂ c.Columns columns columns')
    (related : c.Queries source source') :
    Requests c (.insertUsing q columns source) (.insertUsing q' columns' source')
  | update {q q' : Query} {values values' : Row} (related : c.Queries q q')
    (given : c.Rows values values') : Requests c (.update q values) (.update q' values')
  | delete {q q' : Query} (related : c.Queries q q') : Requests c (.delete q) (.delete q')
  | upsert {q q' : Query} {rows rows' : List Row} {update update' : List Assignment}
    (into : Option.Rel c.Tables q.table q'.table) (given : List.Forall₂ c.Rows rows rows')
    (changed : List.Forall₂ c.Assignments update update') :
    Requests c (.upsert q rows update) (.upsert q' rows' update')
  | truncate {q q' : Query} (emptied : Option.Rel c.Tables q.table q'.table) :
    Requests c (.truncate q) (.truncate q')

/-! ## Requests without other trusted SQL than a rule allows -/

section

variable (rule : ExpressionRule)

def Assignment.Obeys : Assignment → Prop
  | .inserted _ => True
  | .set _ operand => operand.Obeys rule

def Query.TableObeys (q : Query) : Prop := ∀ table, q.table = some table → table.Obeys rule

def Request.Obeys : Request → Prop
  | .select q | .selectExists q | .delete q => q.Obeys rule
  | .insert into rows | .insertOrIgnore into rows =>
    into.TableObeys rule ∧ ∀ row ∈ rows, row.Obeys rule
  | .insertGetId into row _ => into.TableObeys rule ∧ row.Obeys rule
  | .insertUsing into columns source =>
    into.TableObeys rule ∧ (∀ column ∈ columns, column.Obeys rule) ∧ source.Obeys rule
  | .update q values => q.Obeys rule ∧ values.Obeys rule
  | .upsert into rows changes =>
    into.TableObeys rule ∧ (∀ row ∈ rows, row.Obeys rule) ∧ ∀ a ∈ changes, a.Obeys rule
  | .truncate q => q.TableObeys rule

end

theorem Row.rows_of_obey {rule : ExpressionRule} {c : Correspondence} (within : rule.Within c)
    {rows : List Row} (allowed : ∀ row ∈ rows, row.Obeys rule) : List.Forall₂ c.Rows rows rows :=
  List.forall₂_same.mpr fun row member => (allowed row member).rows within

theorem Assignment.assignments_of_obey {rule : ExpressionRule} {c : Correspondence}
    (within : rule.Within c) {update : List Assignment} (allowed : ∀ a ∈ update, a.Obeys rule) :
    List.Forall₂ c.Assignments update update := by
  refine List.forall₂_same.mpr fun a member => ?_
  have one := allowed a member
  cases a with
  | inserted column => exact .inserted (within.column column)
  | set column operand => exact .set (within.column column) (Operand.Obeys.operands within one)

theorem Request.Obeys.requests {rule : ExpressionRule} {c : Correspondence} (within : rule.Within c)
    {r : Request} (allowed : r.Obeys rule) : c.Requests r r := by
  cases r with
  | select q => exact .select (Query.Obeys.queries within allowed)
  | selectExists q => exact .selectExists (Query.Obeys.queries within allowed)
  | insert into rows =>
    exact .insert (Ident.table_of_obey within allowed.1) (Row.rows_of_obey within allowed.2)
  | insertOrIgnore into rows =>
    exact .insertOrIgnore (Ident.table_of_obey within allowed.1) (Row.rows_of_obey within allowed.2)
  | insertGetId into row key =>
    exact .insertGetId (Ident.table_of_obey within allowed.1) (allowed.2.rows within)
      (rel_of_some fun key _ => within.column key)
  | insertUsing into columns source =>
    exact .insertUsing (Ident.table_of_obey within allowed.1)
      (Ident.columns_of_obey within allowed.2.1) (allowed.2.2.queries within)
  | update q values => exact .update (allowed.1.queries within) (allowed.2.rows within)
  | delete q => exact .delete (Query.Obeys.queries within allowed)
  | upsert into rows update =>
    exact .upsert (Ident.table_of_obey within allowed.1) (Row.rows_of_obey within allowed.2.1)
      (Assignment.assignments_of_obey within allowed.2.2)
  | truncate q => exact .truncate (Ident.table_of_obey within allowed)

/-! ## Writing corresponding requests -/

theorem Outcome.single {α β : Type} {R : α → β → Prop} {x : Except CompileError α}
    {y : Except CompileError β} (h : Outcome R x y) :
    Outcome (List.Forall₂ R) (do return [← x]) (do return [← y]) :=
  h.bind fun _ _ related => .pure (.cons related .nil)

/-- Corresponding requests are written as related statements, or fail alike. -/
theorem WriteSimulation.write {d d' : QueryDialect} {c : Correspondence}
    {R : Fragment → Fragment → Prop} (h : WriteSimulation d d' c R) {r r' : Request}
    (related : c.Requests r r') : Outcome (List.Forall₂ R) (d.write r) (d'.write r') := by
  cases related with
  | select related => exact (h.select related).single
  | selectExists related => exact (h.selectExists related).single
  | insert into given => exact (h.insert into given).single
  | insertOrIgnore into given => exact (h.insertOrIgnore into given).single
  | insertGetId into given asked => exact (h.insertGetId into given asked).single
  | insertUsing into listed related => exact (h.insertUsing into listed related).single
  | update related given => exact (h.update related given).single
  | delete related => exact (h.delete related).single
  | upsert into given changed => exact (h.upsert into given changed).single
  | truncate emptied => exact h.truncateTable emptied

end SqlCompose
