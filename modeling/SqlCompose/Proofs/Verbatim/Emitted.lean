import SqlCompose.Proofs.Conditions.Havings
import SqlCompose.Proofs.Verbatim.Passages

/-!
# The expressions that a select emits

The expressions of a query with their places, in its own clauses, its joins and conditions, and in the
queries within it. An aggregate stands for the columns, a raw clause without text is left out, and the order
of a union counts only if there is one. Each clause by itself holds its expressions in these places.
-/
namespace SqlCompose

def Ident.passage : Ident → Passage
  | .name _ => .empty
  | .raw sql => .expression sql.text

def Operand.passage : Operand → Passage
  | .value _ => .empty
  | .raw sql => .expression sql.text

/-- Names in a list. -/
def Ident.passages (names : List Ident) : Passage := .row (names.map Ident.passage)

def HavingTest.passage : HavingTest → Passage
  | .compare column _ operand => column.passage.before operand.passage
  | .raw sql _ => .expression sql.text

/-- The direction stands behind each column. -/
def SortKey.passages (keys : List SortKey) : Passage := .row (keys.map fun key => key.column.passage.closed)

/-- A raw lock is a clause by itself. -/
def Lock.emitted : Lock → List Emitted
  | .raw sql => [⟨sql.text, .whole⟩]
  | .exclusive | .shared => []

namespace Query

/-- The columns, or those that are aggregated in their place. -/
def selectedEmitted (columns : Option (List Ident)) : Option Aggregate → List Emitted
  | none => (Ident.passages (columns.getD [])).ended
  | some aggregate => (Ident.passages aggregate.columns).followed

/-- The expressions of the query apart from its joins, its conditions and its union. -/
def ownEmitted (q : Query) (aggregate : Option Aggregate) : List Emitted :=
  selectedEmitted q.columns aggregate ++ (q.table.elim [] fun table => table.passage.ended) ++
    (Ident.passages q.groups).ended ++ (Passage.row (q.havings.map fun c => c.test.passage)).ended ++
    (SortKey.passages q.orders).ended ++ q.lock.elim [] Lock.emitted

/-- The expressions around a union. -/
def unionEmitted (q : Query) : List Emitted :=
  (q.aggregate.elim [] fun aggregate => (Ident.passages aggregate.columns).followed) ++
    (SortKey.passages q.unionOrders).ended

end Query

mutual
/-- The expressions of a query with their places. -/
def Query.emitted : Query → List Emitted
  | q@{ joins, conditions, members, .. } =>
    (if members.isEmpty then q.ownEmitted q.aggregate else q.ownEmitted none ++ q.unionEmitted) ++
      joinsEmitted joins ++ Passage.clause (clausesPassage conditions) ++ membersEmitted members

def joinsEmitted : List Join → List Emitted
  | [] => []
  | { table, conditions, .. } :: joins =>
    Passage.clause (Passage.join (some table.passage) (clausesPassage conditions)) ++ joinsEmitted joins

/-- The expressions of the clauses that have text, if there are any. -/
def clausesPassage : List Clause → Option Passage
  | [] => none
  | { predicate, .. } :: clauses => Passage.join (Predicate.passage predicate) (clausesPassage clauses)

/-- The expressions of a predicate, unless it has no text. -/
def Predicate.passage : Predicate → Option Passage
  | .compare column _ operand | .datePart _ column _ operand | .jsonLength column _ operand =>
    some (column.passage.before operand.passage)
  | .compareColumns first _ second => some (first.passage.before second.passage)
  | .oneOf _ _ [] => some .empty
  | .oneOf _ column operands =>
    some (column.passage.before (.row (operands.map Operand.passage))).closed
  | .oneOfQuery _ column query => some (column.passage.before ⟨Query.emitted query, none⟩)
  | .null _ column | .jsonContains _ column _ => some column.passage.closed
  | .between _ column low high => some (column.passage.before (low.passage.before high.passage))
  | .existsQuery _ query => some ⟨Query.emitted query, none⟩
  | .nested clauses => (clausesPassage clauses).map Passage.closed
  | .raw sql _ => if sql.text = "" then none else some (.expression sql.text)

def membersEmitted : List Member → List Emitted
  | [] => []
  | { query, .. } :: members => Query.emitted query ++ membersEmitted members
end

/-! ## Expressions of single clauses -/

namespace QueryDialect

variable (d : QueryDialect)

theorem column_holds (i : Ident) : i.passage.Holds (d.quoter.column i) := by
  cases i with
  | name s => exact .empty _
  | raw sql => exact .expression _

theorem table_holds (i : Ident) : i.passage.Holds (d.quoter.table i) := by
  cases i with
  | name s => exact .empty _
  | raw sql => exact .expression _

theorem operand_holds (o : Operand) : o.passage.Holds (d.operand o).sql := by
  cases o with
  | value v => exact .empty _
  | raw sql => exact .expression _

theorem comma_parts : Text.Parts ", " := Text.Opens.parts (by decide)

theorem parenthesis_parts : Text.Parts ")" := Text.Opens.parts (by decide)

theorem columns_hold (names : List Ident) : (Ident.passages names).Holds (d.quoter.columns names) :=
  .rowMap comma_parts d.column_holds names

theorem operands_hold (os : List Operand) :
    (Passage.row (os.map Operand.passage)).Holds (d.operands os).sql := by
  have listed := Passage.Holds.rowMap comma_parts d.operand_holds os
  simpa [operands, Fragment.joinWith, Function.comp_def] using listed

theorem orders_hold (keys : List SortKey) :
    (SortKey.passages keys).Holds (Text.joinWith ", " (keys.map d.orderText)) := by
  refine .rowMap comma_parts (fun key => ?_) keys
  have directed : Text.Opens key.direction.keyword := by cases key.direction <;> decide
  have whole := (d.column_holds key.column).closed directed.spaced
  rwa [← String.append_assoc] at whole

/-- A column ends in an expression or has none in it. -/
theorem column_followed (i : Ident) {t : String} (shows : Text.Shows t) :
    ∀ e ∈ i.passage.followed, e.Stands (d.quoter.column i ++ t) := by
  intro e member
  cases i with
  | name s => cases member
  | raw sql =>
    obtain rfl := List.mem_singleton.mp member
    exact (Passage.Holds.expression sql.text).last_followed shows sql.text rfl

/-- The left side of a comparison has its operator behind it. -/
theorem shown_compared (operators : ∀ o ∈ d.operators, Text.Solid o) {p q : Passage}
    {left given word right : String} (known : d.operator given = .ok word)
    (side : ∀ {t}, Text.Shows t → ∀ e ∈ p.followed, e.Stands (left ++ t)) (holds : q.Holds right) :
    Shown (some (p.before q)) (left ++ " " ++ word ++ " " ++ right) := by
  have opens : Text.Opens word := operator_first operators known
  have text : left ++ " " ++ word ++ " " ++ right = left ++ (" " ++ (word ++ (" " ++ right))) := by
    simp only [String.append_assoc]
  have behind := ((holds.behind " ").behind word).behind " "
  rw [text]
  refine ⟨by simp, fun e member => ?_, (behind.behind left).last⟩
  cases List.mem_append.mp member with
  | inl first => exact side (opens.append _).spaced.shows e first
  | inr second => exact (behind.behind left).inside e second

theorem shown_comparison (operators : ∀ o ∈ d.operators, Text.Solid o) {p : Passage} {left given : String}
    {o : Operand} {f : Fragment} (side : ∀ {t}, Text.Shows t → ∀ e ∈ p.followed, e.Stands (left ++ t))
    (written : d.comparison left given o = .ok f) : Shown (some (p.before o.passage)) f.sql := by
  unfold comparison at written
  obtain ⟨word, known, written⟩ := bind_success written
  cases written
  exact d.shown_compared operators known side (d.operand_holds o)

theorem havingTest_holds (positional : d.slots = .positional) (operators : ∀ o ∈ d.operators, Text.Solid o)
    {t : HavingTest} {f : Fragment} (written : d.havingTest t = .ok f) : t.passage.Holds f.sql := by
  cases t with
  | compare column operator operand =>
    have shown := d.shown_comparison operators (d.column_followed column) written
    exact shown.2
  | raw sql bindings =>
    cases written
    rw [raw_text positional]
    exact .expression sql.text

/-- The conditions of groups, all of them in a row. -/
theorem havingTests_hold (positional : d.slots = .positional)
    (operators : ∀ o ∈ d.operators, Text.Solid o) {clauses : List HavingClause}
    {conditions : List Condition} (written : d.havingConditions clauses = .ok conditions) :
    (Passage.row (clauses.map fun c => c.test.passage)).Holds (Condition.joinAll conditions).sql := by
  have each := havingConditions_each written
  clear written
  induction each with
  | nil => exact .empty _
  | @cons clause c clauses conditions first others ih =>
    have one := d.havingTest_holds positional operators first
    cases others with
    | nil =>
      rw [Condition.joinAll_singleton]
      exact one
    | @cons next e _ _ _ _ =>
      have joined : Text.Opens e.connective.keyword := by cases e.connective <;> decide
      have both := one.before ih (joined.spaced.append " ")
      rw [Condition.joinAll_cons_cons]
      simp only [Fragment.sql_append, Fragment.sql_append_text, String.append_assoc] at both ⊢
      exact both

/-! ## Expressions of the clauses of a select -/

theorem aggregateText_around (distinct : Bool) (a : Aggregate) :
    ∃ front, d.aggregateText distinct (some a) =
      "select " ++ (front ++ (d.quoter.columns a.columns ++ ") as aggregate")) := by
  unfold aggregateText
  dsimp only
  split
  · next none => exact ⟨a.function.keyword ++ "(*", by simp [none, String.append_assoc]⟩
  · split
    · exact ⟨a.function.keyword ++ "(" ++ "distinct ", by simp only [String.append_assoc]⟩
    · exact ⟨a.function.keyword ++ "(", by simp only [String.append_assoc]⟩

theorem opens_aggregateText (distinct : Bool) (a : Aggregate) :
    Text.Opens (d.aggregateText distinct (some a)) := by
  have opens : Text.Opens "select " := by decide
  obtain ⟨front, whole⟩ := d.aggregateText_around distinct a
  rw [whole]
  exact opens.append _

theorem aggregateText_emitted (distinct : Bool) (aggregate : Option Aggregate) :
    ∀ e ∈ aggregate.elim [] fun a => (Ident.passages a.columns).followed,
      e.Stands (d.aggregateText distinct aggregate) := by
  intro e member
  cases aggregate with
  | none => cases member
  | some a =>
    have parts : Text.Parts ") as aggregate" := Text.Opens.parts (by decide)
    have stands := (d.columns_hold a.columns).followed parts e member
    obtain ⟨front, whole⟩ := d.aggregateText_around distinct a
    rw [whole]
    exact (stands.behind front).behind "select "

theorem columnsText_emitted (distinct : Bool) (columns : Option (List Ident)) :
    ∀ e ∈ (Ident.passages (columns.getD [])).ended,
      e.Stands (Text.trim (d.columnsText distinct none columns)) := by
  have opens : Text.Opens ((if distinct then "select distinct" else "select") ++ " ") := by
    cases distinct <;> decide
  match columns with
  | none => exact nofun
  | some [] => exact nofun
  | some (column :: columns) => exact (d.columns_hold (column :: columns)).behindKeyword opens

theorem fromText_emitted (table : Option Ident) :
    ∀ e ∈ table.elim [] fun table => table.passage.ended, e.Stands (Text.trim (d.fromText table)) := by
  have opens : Text.Opens "from " := by decide
  cases table with
  | none => exact nofun
  | some table => exact (d.table_holds table).behindKeyword opens

theorem groupsText_emitted (groups : List Ident) :
    ∀ e ∈ (Ident.passages groups).ended, e.Stands (Text.trim (d.groupsText groups)) := by
  have opens : Text.Opens "group by " := by decide
  cases groups with
  | nil => exact nofun
  | cons column groups => exact (d.columns_hold (column :: groups)).behindKeyword opens

theorem ordersText_emitted (keys : List SortKey) :
    ∀ e ∈ (SortKey.passages keys).ended, e.Stands (Text.trim (d.ordersText keys)) := by
  have opens : Text.Opens "order by " := by decide
  cases keys with
  | nil => exact nofun
  | cons key keys => exact (d.orders_hold (key :: keys)).behindKeyword opens

theorem lockText_emitted (lock : Option Lock) :
    ∀ e ∈ lock.elim [] Lock.emitted, e.Stands (Text.trim (d.lockText lock)) := by
  intro e member
  cases lock with
  | none => cases member
  | some lock =>
    cases lock with
    | exclusive => cases member
    | shared => cases member
    | raw sql =>
      obtain rfl := List.mem_singleton.mp member
      exact ⟨"", "", by simp [Emitted.kept, Emitted.Place.kept, lockText], .inl rfl⟩

theorem havings_emitted (positional : d.slots = .positional) (operators : ∀ o ∈ d.operators, Text.Solid o)
    {clauses : List HavingClause} {f : Fragment} (written : d.havings clauses = .ok f) :
    ∀ e ∈ (Passage.row (clauses.map fun c => c.test.passage)).ended, e.Stands (Text.trim f.sql) := by
  have opens : Text.Opens "having " := by decide
  cases clauses with
  | nil => exact nofun
  | cons clause clauses =>
    rw [havings.eq_2 d _ (by simp)] at written
    obtain ⟨conditions, wrote, written⟩ := bind_success written
    cases written
    exact (d.havingTests_hold positional operators wrote).behindKeyword opens

end QueryDialect
end SqlCompose
