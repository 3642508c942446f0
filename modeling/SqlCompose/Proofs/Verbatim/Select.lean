import SqlCompose.Proofs.Verbatim.Predicates

/-!
# Trusted SQL in a written select

Every expression that a select emits stands in its text, and what is left of it depends on its place alone:
with something behind it in its clause it stands as it is, at the end of a clause it loses the white space at
its end, and as a lock also the white space in front of it (`expressions_stand`). The induction is on the
query, with its joins, conditions, and united and inner queries.
-/
namespace SqlCompose.QueryDialect

variable {d : QueryDialect}

theorem assembleJoin_emitted (kind : JoinKind) (table : Ident) {x : Option Passage}
    {conditions : List Condition} (shown : Shown x (Condition.join conditions).sql) :
    Text.Opens (d.assembleJoin kind table conditions).sql ∧
      ∀ e ∈ Passage.clause (Passage.join (some table.passage) x),
        e.Stands (d.assembleJoin kind table conditions).sql := by
  have keyword : Text.Opens (kind.keyword ++ " join ") := by cases kind <;> decide
  have parts : Text.Parts " on " := Text.Opens.spaced (by decide : Text.Opens "on ")
  have joined := (d.table_holds table).behind (kind.keyword ++ " join ")
  unfold assembleJoin Condition.under
  dsimp only
  cases x with
  | none =>
    have nothing : (Condition.join conditions).sql = "" := shown
    have text : Text.trimEnd (kind.keyword ++ " join " ++ d.quoter.table table ++ " " ++ "") =
        Text.trimEnd (kind.keyword ++ " join " ++ d.quoter.table table) := by
      rw [String.append_empty, Text.trimEnd_space]
    rw [if_pos nothing, Fragment.sql_text_append, nothing, text]
    exact ⟨(keyword.append _).trimEnd, joined.trimEnd⟩
  | some p =>
    have both := joined.before shown.2 parts
    have text : kind.keyword ++ " join " ++ d.quoter.table table ++ " " ++
        ("on" ++ " " ++ (Condition.join conditions).sql) =
          kind.keyword ++ " join " ++ d.quoter.table table ++ " on " ++ (Condition.join conditions).sql := by
      simp [← String.toList_inj]
    rw [if_neg shown.1, Fragment.sql_text_append, Fragment.sql_text_append, text]
    exact ⟨((keyword.append _).append _).append _ |>.trimEnd, both.trimEnd⟩

/-- What stands in one join stands in all of them together. -/
theorem joined_emitted {joins : List Fragment} {e : Emitted} (opens : ∀ f ∈ joins, Text.Opens f.sql)
    (stands : ∃ f ∈ joins, e.Stands f.sql) : e.Stands (Text.trim (Fragment.joinWith " " joins).sql) := by
  obtain ⟨f, member, stands⟩ := stands
  have each : ∀ s ∈ joins.map Fragment.sql, Text.Opens s := by simpa using opens
  have one : f.sql ∈ joins.map Fragment.sql := List.mem_map_of_mem member
  exact (stands.spaced each one).trim (Text.opens_joinWith " " (List.ne_nil_of_mem one) each)

theorem stands_later {f : Fragment} {fs : List Fragment} {e : Emitted} (later : ∃ g ∈ fs, e.Stands g.sql) :
    ∃ g ∈ f :: fs, e.Stands g.sql := by
  obtain ⟨g, member, stands⟩ := later
  exact ⟨g, List.mem_cons_of_mem f member, stands⟩

/-! ## Clauses put together -/

/-- The clauses of a select in their order. -/
def clauseTexts (d : QueryDialect) (q : Query) (aggregate : Option Aggregate)
    (joins conditions havings : String) : List String :=
  [d.aggregateText q.distinct aggregate, d.columnsText q.distinct aggregate q.columns, d.fromText q.table,
    joins, conditions, d.groupsText q.groups, havings, d.ordersText q.orders] ++ d.boundTexts q ++
  [d.lockText q.lock]

theorem assemble_sql (q : Query) (aggregate : Option Aggregate) (joins conditions havings : Fragment) :
    (d.assemble q aggregate joins conditions havings).sql =
      concatenate (d.clauseTexts q aggregate joins.sql conditions.sql havings.sql) := by
  simp [assemble, clauseTexts, Fragment.concat, Function.comp_def]

theorem assemble_emitted {q : Query} {aggregate : Option Aggregate} {joins conditions havings : Fragment}
    {inside : List Emitted}
    (each : ∀ e ∈ inside, e.Stands (Text.trim joins.sql) ∨ e.Stands (Text.trim conditions.sql))
    (had : ∀ e ∈ (Passage.row (q.havings.map fun c => c.test.passage)).ended,
      e.Stands (Text.trim havings.sql)) :
    ∀ e ∈ q.ownEmitted aggregate ++ inside,
      e.Stands (d.assemble q aggregate joins conditions havings).sql := by
  intro e member
  rw [assemble_sql]
  have clause {s : String} (stands : e.Stands (Text.trim s))
      (one : s ∈ d.clauseTexts q aggregate joins.sql conditions.sql havings.sql) := stands.concatenate one
  simp only [Query.ownEmitted, List.mem_append] at member
  rcases member with (((((selected | table) | groups) | tests) | orders) | lock) | within
  · cases aggregate with
    | none => exact clause (d.columnsText_emitted q.distinct q.columns e selected) (by simp [clauseTexts])
    | some a =>
      have stands := d.aggregateText_emitted q.distinct (some a) e selected
      exact clause (stands.trim (d.opens_aggregateText q.distinct a)) (by simp [clauseTexts])
  · exact clause (d.fromText_emitted q.table e table) (by simp [clauseTexts])
  · exact clause (d.groupsText_emitted q.groups e groups) (by simp [clauseTexts])
  · exact clause (had e tests) (by simp [clauseTexts])
  · exact clause (d.ordersText_emitted q.orders e orders) (by simp [clauseTexts])
  · exact clause (d.lockText_emitted q.lock e lock) (by simp [clauseTexts])
  · cases each e within with
    | inl stands => exact clause stands (by simp [clauseTexts])
    | inr stands => exact clause stands (by simp [clauseTexts])

theorem bracket_emitted {e : Emitted} {f : Fragment} (stands : e.Stands f.sql) :
    e.Stands (d.bracket f).sql := by
  unfold bracket
  split
  · exact (stands.behind "(").before parenthesis_parts
  · exact stands

/-- What follows the first query of a union. -/
theorem assembleUnion_emitted {q : Query} {united : List Fragment} (some : united ≠ [])
    (opens : ∀ f ∈ united, Text.Opens f.sql) :
    Text.Opens (d.assembleUnion q united).sql ∧
      (∀ f ∈ united, ∀ e : Emitted, e.Stands f.sql → e.Stands (d.assembleUnion q united).sql) ∧
      ∀ e ∈ (SortKey.passages q.unionOrders).ended, e.Stands (d.assembleUnion q united).sql := by
  have text : (d.assembleUnion q united).sql = concatenate (united.map Fragment.sql ++
      [d.ordersText q.unionOrders, d.limit ⟨q.unionLimit, q.unionOffset⟩,
        d.offset ⟨q.unionLimit, q.unionOffset⟩]) := by
    simp [assembleUnion, Fragment.concat]
  rw [text]
  refine ⟨?_, fun f member e stands => ?_, fun e member => ?_⟩
  · obtain ⟨f, others, rfl⟩ := List.exists_cons_of_ne_nil some
    have shown := (opens f (by simp)).trim_ne_empty
    rw [List.map_cons, List.cons_append, concatenate_front shown]
    exact (Text.opens_trim shown).append _
  · exact (stands.trim (opens f member)).concatenate (by simp [List.mem_map_of_mem member])
  · exact (d.ordersText_emitted q.unionOrders e member).concatenate (by simp)

/-- A written query that is counted stands in parentheses behind the aggregate. -/
theorem aggregateOver_emitted (q : Query) (inner : Fragment) :
    (∀ e : Emitted, e.Stands inner.sql → e.Stands (d.aggregateOver q inner).sql) ∧
      ∀ e ∈ q.aggregate.elim [] fun a => (Ident.passages a.columns).followed,
        e.Stands (d.aggregateOver q inner).sql := by
  have closing : Text.Parts (") as " ++ d.quoter.tableName "temp_table") :=
    ((by decide : Text.Opens ") as ").append _).parts
  have source : Text.Parts (" from (" ++ (inner.sql ++ (") as " ++ d.quoter.tableName "temp_table"))) :=
    (Text.Opens.spaced (by decide : Text.Opens "from (")).append _
  have text : (d.aggregateOver q inner).sql = d.aggregateText q.distinct q.aggregate ++
      (" from (" ++ (inner.sql ++ (") as " ++ d.quoter.tableName "temp_table"))) := by
    simp [aggregateOver, String.append_assoc]
  rw [text]
  constructor
  · intro e stands
    exact ((stands.before closing).behind _).behind _
  · intro e member
    exact (d.aggregateText_emitted q.distinct q.aggregate e member).before source

theorem assembleSelect_emitted {q : Query} {joins conditions havings : Fragment} {united : List Fragment}
    {inside members : List Emitted}
    (each : ∀ e ∈ inside, e.Stands (Text.trim joins.sql) ∨ e.Stands (Text.trim conditions.sql))
    (had : ∀ e ∈ (Passage.row (q.havings.map fun c => c.test.passage)).ended,
      e.Stands (Text.trim havings.sql))
    (opens : ∀ f ∈ united, Text.Opens f.sql)
    (within : ∀ e ∈ members, ∃ f ∈ united, e.Stands f.sql) :
    ∀ e ∈ (if united.isEmpty then q.ownEmitted q.aggregate else q.ownEmitted none ++ q.unionEmitted) ++
        inside ++ members,
      e.Stands (d.assembleSelect q joins conditions havings united).sql := by
  intro e member
  cases united with
  | nil =>
    cases List.mem_append.mp member with
    | inl alone => exact assemble_emitted each had e alone
    | inr united =>
      obtain ⟨f, nowhere, -⟩ := within e united
      cases nowhere
  | cons f fs =>
    obtain ⟨union_opens, in_members, in_orders⟩ := assembleUnion_emitted (d := d) (q := q)
      (List.cons_ne_nil f fs) opens
    -- The union as a whole, before it is counted.
    have whole (part : e ∈ q.ownEmitted none ++ inside ∨ e ∈ (SortKey.passages q.unionOrders).ended ∨
        e ∈ members) : e.Stands (d.bracket (d.assemble q none joins conditions havings) ++ " " ++
          d.assembleUnion q (f :: fs)).sql := by
      rw [Fragment.sql_append, Fragment.sql_append_text]
      rcases part with first | orders | united
      · rw [String.append_assoc]
        exact (bracket_emitted (assemble_emitted each had e first)).before union_opens.spaced
      · exact (in_orders e orders).behind _
      · obtain ⟨g, one, stands⟩ := within e united
        exact (in_members g one e stands).behind _
    have above := aggregateOver_emitted (d := d) q
      (d.bracket (d.assemble q none joins conditions havings) ++ " " ++ d.assembleUnion q (f :: fs))
    have split : e ∈ (q.aggregate.elim [] fun a => (Ident.passages a.columns).followed) ∨
        e ∈ q.ownEmitted none ++ inside ∨ e ∈ (SortKey.passages q.unionOrders).ended ∨ e ∈ members := by
      simp only [List.isEmpty_cons, Bool.false_eq_true, if_false, Query.unionEmitted, List.mem_append,
        or_assoc] at member ⊢
      tauto
    unfold assembleSelect
    cases counted : q.aggregate with
    | none =>
      rw [counted] at split
      exact whole (split.resolve_left List.not_mem_nil)
    | some a => exact split.elim (above.2 e) fun part => above.1 e (whole part)

/-! ## Whole queries -/

-- What an inner query emits keeps its place, as its text is trimmed already.
mutual
theorem select_emitted (supported : Supported d) (operators : ∀ o ∈ d.operators, Text.Solid o) :
    ∀ q : Query, Yields (fun f => ∀ e ∈ q.emitted, e.Stands f.sql) (d.select q)
  | q@{ joins, conditions, havings, members, .. } => by
    apply (joinFragments_emitted supported operators joins).bind
    intro js joined
    apply (conditionList_emitted supported operators conditions).bind
    intro cs met
    apply Yields.bind (.of_success fun f written =>
      d.havings_emitted supported.writesPlainly.positional operators written)
    intro hs had
    apply (memberList_emitted supported operators members).bind
    intro ms united
    have keyword : Text.Opens "where" := by decide
    refine .ok fun e member => ?_
    rw [Query.emitted, ← united.1, List.append_assoc _ (joinsEmitted joins)] at member
    refine assembleSelect_emitted (fun e inside => ?_) had united.2.1 united.2.2 e member
    cases List.mem_append.mp inside with
    | inl join => exact .inl (joined_emitted joined.1 (joined.2 e join))
    | inr condition => exact .inr (met.under keyword e condition)

theorem joinFragments_emitted (supported : Supported d)
    (operators : ∀ o ∈ d.operators, Text.Solid o) : ∀ joins : List Join,
    Yields (fun fs => (∀ f ∈ fs, Text.Opens f.sql) ∧ ∀ e ∈ joinsEmitted joins, ∃ f ∈ fs, e.Stands f.sql)
      (d.joinFragments joins)
  | [] => .ok ⟨nofun, nofun⟩
  | { kind, table, conditions } :: joins => by
    apply (conditionList_emitted supported operators conditions).bind
    intro cs met
    apply (joinFragments_emitted supported operators joins).bind
    intro fs others
    obtain ⟨opens, stand⟩ := assembleJoin_emitted (d := d) kind table met
    refine .ok ⟨List.forall_mem_cons.mpr ⟨opens, others.1⟩, fun e member => ?_⟩
    cases List.mem_append.mp member with
    | inl here => exact ⟨_, List.mem_cons_self, stand e here⟩
    | inr later => exact stands_later (others.2 e later)

theorem conditionList_emitted (supported : Supported d)
    (operators : ∀ o ∈ d.operators, Text.Solid o) : ∀ clauses : List Clause,
    Yields (fun cs => Shown (clausesPassage clauses) (Condition.join cs).sql) (d.conditionList clauses)
  | [] => .ok rfl
  | { connective, predicate } :: clauses => by
    apply (predicateText_emitted supported operators predicate).bind
    intro f shown
    apply (conditionList_emitted supported operators clauses).bind
    intro cs rest
    exact .ok (.join (c := ⟨connective, f⟩) shown rest)

theorem predicateText_emitted (supported : Supported d)
    (operators : ∀ o ∈ d.operators, Text.Solid o) : ∀ p : Predicate,
    Yields (fun f => Shown p.passage f.sql) (d.predicateText p)
  | .compare column _ _ => .of_success fun _ written =>
    d.shown_comparison operators (d.column_followed column) written
  | .compareColumns first _ second => .of_success fun f written => by
    obtain ⟨word, known, written⟩ := bind_success written
    cases written
    exact d.shown_compared operators known (d.column_followed first) (d.column_holds second)
  | .oneOf negated _ [] => by
    refine .ok ⟨?_, .empty _⟩
    cases negated <;> decide
  | .oneOf negated column (operand :: operands) =>
    .ok (shown_oneOf negated column (operand :: operands))
  | .oneOfQuery negated column query => by
    apply (select_emitted supported operators query).bind
    intro inner stand
    exact .ok (shown_oneOfQuery negated column stand)
  | .null negated column => .ok (shown_null negated column)
  | .between negated column low high => .ok (shown_between negated column low high)
  | .existsQuery negated query => by
    apply (select_emitted supported operators query).bind
    intro inner stand
    exact .ok (shown_existsQuery negated stand)
  | .nested clauses => by
    apply (conditionList_emitted supported operators clauses).bind
    intro cs met
    exact .ok (shown_nested met)
  | .raw sql bindings => .ok (shown_raw supported.writesPlainly.positional sql bindings)
  | .datePart _ _ _ _ => .of_success fun _ written => shown_datePart supported operators written
  | .jsonContains negated column document => .ok (shown_jsonContains supported negated column document)
  | .jsonLength _ _ _ => .of_success fun _ written => shown_jsonLength supported operators written

theorem memberList_emitted (supported : Supported d)
    (operators : ∀ o ∈ d.operators, Text.Solid o) : ∀ members : List Member,
    Yields (fun fs => fs.isEmpty = members.isEmpty ∧ (∀ f ∈ fs, Text.Opens f.sql) ∧
      ∀ e ∈ membersEmitted members, ∃ f ∈ fs, e.Stands f.sql) (d.memberList members)
  | [] => .ok ⟨rfl, nofun, nofun⟩
  | { query, all } :: members => by
    apply (select_emitted supported operators query).bind
    intro inner stand
    apply (memberList_emitted supported operators members).bind
    intro fs others
    have keyword : Text.Opens (if all then "union all " else "union ") := by cases all <;> decide
    refine .ok ⟨by simp, List.forall_mem_cons.mpr ⟨keyword.append _, others.2.1⟩, fun e member => ?_⟩
    cases List.mem_append.mp member with
    | inl here => exact ⟨_, List.mem_cons_self, (bracket_emitted (stand e here)).behind _⟩
    | inr later => exact stands_later (others.2.2 e later)
end

/-- Every expression that a select emits stands in its text, as much of it as its place leaves. So it stands
there as it is if its place takes nothing from it. -/
theorem expressions_stand (supported : Supported d) (operators : ∀ o ∈ d.operators, Text.Solid o)
    {q : Query} {f : Fragment} (written : d.select q = .ok f) :
    ∀ e ∈ q.emitted, e.Stands f.sql ∧ (e.kept = e.text → Text.Occurs e.text f.sql) := by
  have emitted := select_emitted supported operators q
  rw [written] at emitted
  intro e member
  have stands := emitted.of_ok e member
  refine ⟨stands, fun kept => ?_⟩
  rw [← kept]
  exact stands.occurs

/-- A condition that ends in a comment, in front of another one. -/
def commentedUsers : Query where
  table := some (.name "users")
  conditions := [⟨.and, .raw ⟨"age > 1 -- years\n"⟩ []⟩, ⟨.or, .raw ⟨"id = 1 -- the first\n"⟩ []⟩]
  limit := some 5

/-- The comment of the last condition has lost its end, so the bound stands in it. -/
theorem expressions_stand_commentedUsers : ∃ f, (mySql "").select commentedUsers = .ok f ∧
    commentedUsers.emitted = [⟨"age > 1 -- years\n", .followed⟩, ⟨"id = 1 -- the first\n", .last⟩] ∧
    f.sql = "select * from `users` where age > 1 -- years\n or id = 1 -- the first limit 5" ∧
    Text.Occurs "age > 1 -- years\n" f.sql ∧
    Emitted.Stands ⟨"id = 1 -- the first\n", .last⟩ f.sql ∧
    ¬ Text.Occurs "id = 1 -- the first\n" f.sql := by
  have operators : ∀ o ∈ (mySql "").operators, Text.Solid o := by decide
  have text : ((mySql "").select commentedUsers).toOption.map (·.sql) =
      some "select * from `users` where age > 1 -- years\n or id = 1 -- the first limit 5" := by decide
  obtain ⟨f, written, sql⟩ := success_of_toOption text
  have emitted : commentedUsers.emitted =
      [⟨"age > 1 -- years\n", .followed⟩, ⟨"id = 1 -- the first\n", .last⟩] := by decide
  have each := expressions_stand (.mySql "") operators written
  have first := each ⟨"age > 1 -- years\n", .followed⟩ (by simp [emitted])
  have last := each ⟨"id = 1 -- the first\n", .last⟩ (by simp [emitted])
  refine ⟨f, written, emitted, sql, first.2 rfl, last.1, ?_⟩
  rw [sql]
  decide +kernel

end SqlCompose.QueryDialect
