import SqlCompose.Proofs.Congruence.Parts
import SqlCompose.Proofs.Simulation.Write

/-!
# Congruence of statements

Under a congruence the two dialects fail alike or write related statements for every query whose
expressions obey the rule.
-/
namespace SqlCompose.Congruence

variable {d d' : QueryDialect} {rule : ExpressionRule} {R : Fragment → Fragment → Prop}
  (h : Congruence d d' rule R)

include h

/-- One query, written in both dialects. -/
theorem simulates : Simulation d d' rule.diagonal R where
  toClauseSimulation := h.simulation
  bracketsUnions := h.bracketsUnions
  joinedWrites := h.joinedWrites
  boundary := h.boundary
  sharedLock := h.sharedLock
  limit := h.limit
  offset := h.offset
  tableAlias := by
    rintro _ s rfl
    exact h.tableAlias s
  unionName := h.tableName "temp_table"
  existsName := h.part "exists"

theorem ordersText {keys : List SortKey} (allowed : ∀ key ∈ keys, key.column.Obeys rule) :
    R (.ofText (d.ordersText keys)) (.ofText (d'.ordersText keys)) :=
  h.simulates.ordersText (SortKey.keys_of_obey rule.within_diagonal allowed)

theorem lockText {l : Option Lock} (allowed : ∀ x, l = some x → x.Obeys rule) :
    R (.ofText (d.lockText l)) (.ofText (d'.lockText l)) :=
  h.simulates.lockText (rel_of_some fun x given => (allowed x given).locks rule.within_diagonal)

/-- The clauses of a query that is not counted. -/
theorem assemble {q : Query} {js js' cs cs' hs hs' : Fragment} (allowed : q.PartsObey rule)
    (joins : R js js') (conditions : R cs cs') (havings : R hs hs') :
    R (d.assemble q none js cs hs) (d'.assemble q none js' cs' hs') :=
  h.simulates.assemble (allowed.parts rule.within_diagonal) .none joins conditions havings

theorem conditionList {clauses : List Clause} (allowed : ClausesObey rule clauses) :
    Outcome (List.Forall₂ (Compatible.Alike R)) (d.conditionList clauses) (d'.conditionList clauses) :=
  h.simulates.conditionList (allowed.clauseLists rule.within_diagonal)

theorem select {q : Query} (allowed : q.Obeys rule) : Outcome R (d.select q) (d'.select q) :=
  h.simulates.select (allowed.queries rule.within_diagonal)

theorem selectExists {q : Query} (allowed : q.Obeys rule) :
    Outcome R (d.selectExists q) (d'.selectExists q) :=
  h.simulates.selectExists (allowed.queries rule.within_diagonal)

theorem insertUsing {q source : Query} {columns : List Ident}
    (into : ∀ i, q.table = some i → i.Obeys rule) (listed : ∀ i ∈ columns, i.Obeys rule)
    (allowed : source.Obeys rule) :
    Outcome R (d.insertUsing q columns source) (d'.insertUsing q columns source) :=
  h.simulates.insertUsing (Ident.table_of_obey rule.within_diagonal into)
    (Ident.columns_of_obey rule.within_diagonal listed) (allowed.queries rule.within_diagonal)

theorem update {q : Query} {values : Row} (allowed : q.Obeys rule) (given : values.Obeys rule) :
    Outcome R (d.update q values) (d'.update q values) :=
  h.simulates.update (allowed.queries rule.within_diagonal) (given.rows rule.within_diagonal)

theorem delete {q : Query} (allowed : q.Obeys rule) : Outcome R (d.delete q) (d'.delete q) :=
  h.simulates.delete (allowed.queries rule.within_diagonal)

end SqlCompose.Congruence
