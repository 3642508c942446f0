import Mathlib.Data.List.Range
import SqlCompose.Dialect.MySql
import SqlCompose.Dialect.Postgres
import SqlCompose.Proofs.Conditions.Reading
import SqlCompose.Proofs.Fragments
import SqlCompose.Proofs.Outcome
import SqlCompose.Write

/-!
# Conditions of joined updates and deletes

A dialect that lists joined tables writes the conditions of the statement and of all joins as one
list, each clause with its own connective. The condition so written means that the statement's
conditions and those of every join hold only if the lists are separable.
-/
namespace SqlCompose

/-- A condition that has text, and where its clause stands: in which list, and where in the list. -/
structure Placed where
  connective : Connective
  sql : String
  place : Nat × Nat

namespace Placed

/-- The conditions of one list that have text. -/
def ofList (list : Nat) (conditions : List Condition) : List Placed :=
  (conditions.zipIdx.filter fun c => c.1.fragment.sql ≠ "").map fun c =>
    ⟨c.1.connective, c.1.fragment.sql, list, c.2⟩

def ofLists (lists : List (List Condition)) : List (List Placed) :=
  lists.zipIdx.map fun l => ofList l.2 l.1

/-- The conditions as they are written in a row. -/
def text (conditions : List Placed) : String :=
  joinConditions (conditions.map fun c => (c.connective, c.sql))

/-- The conditions without their texts. -/
def tests (conditions : List Placed) : List (Connective × Nat × Nat) :=
  conditions.map fun c => (c.connective, c.place)

/-- The order of the places in which clauses can stand. -/
def Before (a b : Nat × Nat) : Prop := a.1 < b.1 ∨ a.1 = b.1 ∧ a.2 < b.2

theorem before_asymm (a b : Nat × Nat) (h : Before a b) : ¬ Before b a := by
  unfold Before at *
  omega

theorem texts_ofList (list : Nat) (conditions : List Condition) :
    (ofList list conditions).map (fun c => (c.connective, c.sql)) =
      (Condition.visible conditions).map fun c => (c.connective, c.fragment.sql) := by
  have each (k : Nat) :
      ((conditions.zipIdx k).filter fun c => c.1.fragment.sql ≠ "").map Prod.fst =
        Condition.visible conditions := by
    unfold Condition.visible
    induction conditions generalizing k with
    | nil => rfl
    | cons c rest ih =>
      rw [List.zipIdx_cons]
      by_cases shown : c.fragment.sql = ""
      · rw [List.filter_cons_of_neg (by simpa using shown),
          List.filter_cons_of_neg (by simpa using shown), ih]
      · rw [List.filter_cons_of_pos (by simpa using shown),
          List.filter_cons_of_pos (by simpa using shown), List.map_cons, ih]
  rw [← each 0, ofList, List.map_map, List.map_map]
  rfl

/-- Several lists in a row have the text of their conditions in one list. -/
theorem text_ofLists (lists : List (List Condition)) :
    text (ofLists lists).flatten = (Condition.join lists.flatten).sql := by
  have each (k : Nat) : ((lists.zipIdx k).map fun l => ofList l.2 l.1).flatten.map
      (fun c => (c.connective, c.sql)) =
        (Condition.visible lists.flatten).map fun c => (c.connective, c.fragment.sql) := by
    induction lists generalizing k with
    | nil => rfl
    | cons first lists ih =>
      rw [List.zipIdx_cons, List.map_cons, List.flatten_cons, List.flatten_cons, List.map_append,
        Condition.visible_append, List.map_append, ih, texts_ofList]
  rw [text, ofLists, each 0]
  rfl

theorem ordered_ofList (list : Nat) (conditions : List Condition) :
    (ofList list conditions).Pairwise fun c e => Before c.place e.place := by
  have indices : (conditions.zipIdx.map Prod.snd).Pairwise (· < ·) := by
    rw [List.zipIdx_map_snd]
    exact List.pairwise_lt_range'
  have kept := (List.pairwise_map.mp indices).filter fun c => c.1.fragment.sql ≠ ""
  rw [ofList, List.pairwise_map]
  exact kept.imp fun later => .inr ⟨rfl, later⟩

theorem ordered_ofLists (lists : List (List Condition)) :
    (ofLists lists).flatten.Pairwise fun c e => Before c.place e.place := by
  have indices : (lists.zipIdx.map Prod.snd).Pairwise (· < ·) := by
    rw [List.zipIdx_map_snd]
    exact List.pairwise_lt_range'
  have list_of (l : Nat) (conditions : List Condition) :
      ∀ c ∈ ofList l conditions, c.place.1 = l := by
    intro c member
    obtain ⟨_, _, rfl⟩ := List.mem_map.mp member
    rfl
  rw [List.pairwise_flatten, ofLists, List.pairwise_map]
  constructor
  · intro l member
    obtain ⟨source, _, rfl⟩ := List.mem_map.mp member
    exact ordered_ofList _ _
  · refine (List.pairwise_map.mp indices).imp ?_
    intro l l' later c inside e inside'
    left
    rw [list_of _ _ c inside, list_of _ _ e inside']
    exact later

/-- The lists written in a row mean that each of them holds just when they are separable. -/
theorem readsApart_iff (lists : List (List Condition)) :
    Condition.ReadsApart ((ofLists lists).map tests) ↔
      Condition.Separable ((ofLists lists).map tests) := by
  apply Condition.readsApart_iff before_asymm
  have flat : ((ofLists lists).map tests).flatten = tests (ofLists lists).flatten := by
    unfold tests
    rw [List.map_flatten]
  rw [flat, tests, List.pairwise_map]
  exact ordered_ofLists lists

end Placed

namespace QueryDialect

variable (d : QueryDialect)

/-- The conditions of a query, and those of each of its joins. -/
def conditionLists (q : Query) : Except CompileError (List (List Condition)) := do
  let own ← d.conditionList q.conditions
  return own :: (← q.joins.mapM fun join => d.conditionList join.conditions)

theorem allJoinConditions_eq (joins : List Join) : d.allJoinConditions joins =
    (do return (← joins.mapM fun join => d.conditionList join.conditions).flatten) := by
  induction joins with
  | nil => rfl
  | cons join joins ih => simp [allJoinConditions, ih]

variable {d}

theorem foldedConditions_parts {q : Query} {folded : FoldedConditions}
    (written : d.foldedConditions q = .ok folded) : ∃ own others,
      d.conditionList q.conditions = .ok own ∧ d.allJoinConditions q.joins = .ok others ∧
      folded.sql = (Condition.under "where" (own ++ others)).sql ∧
      folded.own = Condition.allBindings own ∧ folded.joined = Condition.allBindings others := by
  unfold foldedConditions at written
  obtain ⟨own, wrote, written⟩ := bind_success written
  obtain ⟨others, wrote', written⟩ := bind_success written
  cases written
  exact ⟨own, others, wrote, wrote', rfl, rfl, rfl⟩

theorem foldedConditions_ok {q : Query} {folded : FoldedConditions}
    (written : d.foldedConditions q = .ok folded) : ∃ lists, d.conditionLists q = .ok lists ∧
      folded.sql = (Condition.under "where" lists.flatten).sql := by
  obtain ⟨own, joined, wrote, wrote', text, -, -⟩ := foldedConditions_parts written
  rw [allJoinConditions_eq] at wrote'
  obtain ⟨lists, wrote_lists, flat⟩ := bind_success wrote'
  cases flat
  refine ⟨own :: lists, ?_, text⟩
  simp only [conditionLists, wrote, wrote_lists]
  rfl

/-- A keyword in front of a condition, if there is one. -/
def clauseText (keyword condition : String) : String :=
  if condition = "" then "" else keyword ++ " " ++ condition

theorem under_sql (keyword : String) (conditions : List Condition) :
    (Condition.under keyword conditions).sql =
      clauseText keyword (Condition.join conditions).sql := by
  unfold Condition.under clauseText
  dsimp only
  split
  · next nothing => exact nothing
  · rfl

/-- An update with joins lists the joined tables; the condition is that of all lists in a row. -/
theorem update_listed {q : Query} {values : Row} {f : Fragment} (listed : d.joinedWrites = .listed)
    (joined : q.joins ≠ []) (written : d.update q values = .ok f) :
    ∃ table lists, d.target .update q = .ok table ∧ d.conditionLists q = .ok lists ∧
      f.sql = concatenate ["update " ++ table, "set " ++ (d.assignments values).sql,
        "from " ++ d.joinedTables q,
        clauseText "where" (Placed.text (Placed.ofLists lists).flatten)] := by
  have some_join : q.joins.isEmpty = false := by simpa using joined
  unfold update at written
  obtain ⟨table, target, written⟩ := bind_success written
  simp only [listed, some_join, Bool.false_eq_true, if_false] at written
  obtain ⟨folded, conditions, written⟩ := bind_success written
  obtain ⟨lists, wrote, text⟩ := foldedConditions_ok conditions
  have whole := Except.ok.inj written
  refine ⟨table, lists, target, wrote, ?_⟩
  rw [Placed.text_ofLists, ← under_sql, ← text, ← whole, Fragment.sql_text_append]

/-- A delete with joins lists the joined tables and has one row of conditions. -/
theorem delete_folded {q : Query} {f : Fragment} (listed : d.joinedWrites = .listed)
    (joined : q.joins ≠ []) (written : d.delete q = .ok f) : ∃ table folded,
      d.target .delete q = .ok table ∧ d.foldedConditions q = .ok folded ∧
      f.sql = concatenate ["delete from " ++ table, "using " ++ d.joinedTables q, folded.sql] ∧
      f.bindings = folded.own ++ folded.joined := by
  have some_join : q.joins.isEmpty = false := by simpa using joined
  unfold delete at written
  obtain ⟨table, target, written⟩ := bind_success written
  simp only [listed, some_join, Bool.false_eq_true, if_false] at written
  obtain ⟨folded, conditions, written⟩ := bind_success written
  have whole := Except.ok.inj written
  exact ⟨table, folded, target, conditions, by rw [← whole], by rw [← whole]⟩

theorem delete_listed {q : Query} {f : Fragment} (listed : d.joinedWrites = .listed)
    (joined : q.joins ≠ []) (written : d.delete q = .ok f) :
    ∃ table lists, d.target .delete q = .ok table ∧ d.conditionLists q = .ok lists ∧
      f.sql = concatenate ["delete from " ++ table, "using " ++ d.joinedTables q,
        clauseText "where" (Placed.text (Placed.ofLists lists).flatten)] := by
  obtain ⟨table, folded, target, conditions, whole, -⟩ := delete_folded listed joined written
  obtain ⟨lists, wrote, text⟩ := foldedConditions_ok conditions
  refine ⟨table, lists, target, wrote, ?_⟩
  rw [Placed.text_ofLists, ← under_sql, ← text, whole]

/-- The condition of a joined update or delete means that the conditions of the statement and those of
each join hold just when the lists are separable: no `or` is left, or only one list has conditions. -/
theorem joined_changes_readApart_iff (tablePrefix : String) {q : Query} (joined : q.joins ≠ []) :
    (∀ values f, (postgres tablePrefix).update q values = .ok f → ∃ table lists,
      (postgres tablePrefix).target .update q = .ok table ∧
      (postgres tablePrefix).conditionLists q = .ok lists ∧
      f.sql = concatenate ["update " ++ table,
        "set " ++ ((postgres tablePrefix).assignments values).sql,
        "from " ++ (postgres tablePrefix).joinedTables q,
        clauseText "where" (Placed.text (Placed.ofLists lists).flatten)] ∧
      (Condition.ReadsApart ((Placed.ofLists lists).map Placed.tests) ↔
        Condition.Separable ((Placed.ofLists lists).map Placed.tests))) ∧
    (∀ f, (postgres tablePrefix).delete q = .ok f → ∃ table lists,
      (postgres tablePrefix).target .delete q = .ok table ∧
      (postgres tablePrefix).conditionLists q = .ok lists ∧
      f.sql = concatenate ["delete from " ++ table,
        "using " ++ (postgres tablePrefix).joinedTables q,
        clauseText "where" (Placed.text (Placed.ofLists lists).flatten)] ∧
      (Condition.ReadsApart ((Placed.ofLists lists).map Placed.tests) ↔
        Condition.Separable ((Placed.ofLists lists).map Placed.tests))) := by
  constructor
  · intro values f written
    obtain ⟨table, lists, target, wrote, text⟩ := update_listed rfl joined written
    exact ⟨table, lists, target, wrote, text, Placed.readsApart_iff lists⟩
  · intro f written
    obtain ⟨table, lists, target, wrote, text⟩ := delete_listed rfl joined written
    exact ⟨table, lists, target, wrote, text, Placed.readsApart_iff lists⟩

/-- Two conditions joined by `or`, and a join with a condition of its own. -/
def eitherJoined : Query where
  table := some (.name "users")
  joins := [⟨.inner, .name "orders",
    [⟨.and, .compareColumns (.name "users.id") "=" (.name "orders.user_id")⟩]⟩]
  conditions := [⟨.and, .compare (.name "users.plan") "=" (.value (.string "gold"))⟩,
    ⟨.or, .compare (.name "users.score") ">" (.value (.int 90))⟩]

/-- A user with the plan is updated whether or not there is an order. -/
theorem joined_changes_eitherJoined : ∃ lists,
    (postgres "").conditionLists eitherJoined = .ok lists ∧
    ((postgres "").update eitherJoined (.ofList [("tier", .value (.int 1))])).toOption.map (·.sql) =
      some ("update \"users\" set \"tier\" = ? from \"orders\" where " ++
        "\"users\".\"plan\" = ? or \"users\".\"score\" > ? " ++
        "and \"users\".\"id\" = \"orders\".\"user_id\"") ∧
    ¬ Condition.ReadsApart ((Placed.ofLists lists).map Placed.tests) := by
  have succeeds : ((postgres "").update eitherJoined (.ofList [("tier", .value (.int 1))])).toOption.map
      (fun _ => ()) = some () := by decide +kernel
  have places : ((postgres "").conditionLists eitherJoined).toOption.map
      (fun lists => (Placed.ofLists lists).map Placed.tests) =
        some [[(.and, 0, 0), (.or, 0, 1)], [(.and, 1, 0)]] := by decide +kernel
  obtain ⟨f, written, _⟩ := success_of_toOption succeeds
  obtain ⟨lists, wrote, tests⟩ := success_of_toOption places
  obtain ⟨_, same, _, wrote', _, iff⟩ :=
    (joined_changes_readApart_iff "" (by simp [eitherJoined])).1 _ _ written
  rw [wrote] at wrote'
  cases wrote'
  refine ⟨lists, wrote, by decide +kernel, ?_⟩
  rw [iff, tests]
  simp [Condition.Separable]

end QueryDialect
end SqlCompose
