import SqlCompose.Dialect.MySql
import SqlCompose.Dialect.Postgres
import SqlCompose.Proofs.Listing.Checked
import SqlCompose.Write

/-!
# Every value is bound once

A select binds the values of the query in written order, whatever the dialect, and so does an insert
of its rows. Updates and deletes bind the values of their joins, conditions and assignments, each part
in written order; the dialects differ only in the order of the parts (`values_bound_once`).
-/
namespace SqlCompose

/-- The values in the conditions of the joins. -/
def Query.joinValues (q : Query) : List Value := joinItems valueListing q.joins

def Query.conditionValues (q : Query) : List Value := clauseItems valueListing q.conditions

theorem Query.joinValues_of_joinless {q : Query} (none : q.joins = []) : q.joinValues = [] :=
  congrArg (joinItems valueListing) none

namespace QueryDialect

/-- The values of an update. Where the joined tables are listed, the conditions of the joins come
last. -/
def updateValues (d : QueryDialect) (q : Query) (row : Row) : List Value :=
  match d.joinedWrites with
  | .plain | .multiTable => q.joinValues ++ row.values ++ q.conditionValues
  | .listed => row.values ++ q.conditionValues ++ q.joinValues

/-- The values of a delete: a plain one has no joins. -/
def deleteValues (d : QueryDialect) (q : Query) : List Value :=
  match d.joinedWrites with
  | .plain => q.conditionValues
  | .multiTable => q.joinValues ++ q.conditionValues
  | .listed => q.conditionValues ++ q.joinValues

variable {d : QueryDialect}

theorem updateValues_of_joinless {q : Query} (none : q.joins = []) (row : Row) :
    d.updateValues q row = row.values ++ q.conditionValues := by
  unfold updateValues
  rw [Query.joinValues_of_joinless none]
  cases d.joinedWrites <;> simp

theorem deleteValues_of_joinless {q : Query} (none : q.joins = []) :
    d.deleteValues q = q.conditionValues := by
  unfold deleteValues
  rw [Query.joinValues_of_joinless none]
  cases d.joinedWrites <;> simp

theorem Checked.yields {β : Type} {operators : List String} {P : β → Prop}
    {x : Except CompileError β} (checked : d.Checked operators P x) : Yields P x := by
  cases checked with
  | ok _ holds => exact .ok holds
  | error _ => exact .error _

theorem target_yields (statement : Statement) (q : Query) :
    Yields (fun _ => True) (d.target statement q) := by
  unfold target
  cases q.table with
  | none => exact .error _
  | some table => exact .ok trivial

theorem selectExists_values (q : Query) :
    Yields (fun f => f.bindings = q.values) (d.selectExists q) := by
  apply (select_checked q).yields.bind
  intro f inner
  exact .ok inner

/-- An insert of the rows of a query binds what the query binds. -/
theorem insertUsing_values (into : Query) (columns : List Ident) (source : Query) :
    Yields (fun f => f.bindings = source.values) (d.insertUsing into columns source) := by
  apply (target_yields .insert into).bind
  intro table _
  apply (select_checked source).yields.bind
  intro f inner
  exact .ok inner

theorem joinList_values (q : Query) :
    Yields (fun f => f.bindings = q.joinValues) (d.joinList q.joins) := by
  apply (joinFragments_checked q.joins).yields.bind
  intro fs joined
  exact .ok joined

theorem conditions_values (q : Query) :
    Yields (fun f => f.bindings = q.conditionValues) (d.conditions q.conditions) := by
  apply (conditionList_checked q.conditions).yields.bind
  intro cs met
  exact .ok ((bindings_under "where" cs).trans met)

theorem allJoinConditions_values (joins : List Join) :
    Yields (fun cs => Condition.allBindings cs = joinItems valueListing joins)
      (d.allJoinConditions joins) := by
  induction joins with
  | nil => exact .ok rfl
  | cons join joins ih =>
    obtain ⟨kind, table, conditions⟩ := join
    apply (conditionList_checked conditions).yields.bind
    intro cs met
    apply ih.bind
    intro es others
    have both : Condition.allBindings (cs ++ es) = _ := List.flatMap_append
    exact .ok (both.trans (congrArg₂ (· ++ ·) met others))

theorem foldedConditions_values (q : Query) :
    Yields (fun c => c.own = q.conditionValues ∧ c.joined = q.joinValues) (d.foldedConditions q) := by
  apply (conditionList_checked q.conditions).yields.bind
  intro own met
  apply (allJoinConditions_values q.joins).bind
  intro joined others
  exact .ok ⟨met, others⟩

theorem bindings_assignments (row : Row) :
    (d.assignments row).bindings = row.values := by
  unfold assignments Row.values Row.operands
  show (row.entries.map _).flatMap Fragment.bindings = _
  rw [List.flatMap_map, List.flatMap_map]
  exact congrArg (List.flatMap · row.entries) (funext fun e => bindings_operand e.2)

/-- The dialect's order of the parts is the one in which an update lists its values. -/
theorem orderUpdateBindings_eq (q : Query) (row : Row) :
    d.orderUpdateBindings q.joinValues q.conditionValues row.values = d.updateValues q row := by
  unfold orderUpdateBindings updateValues
  cases d.joinedWrites <;> rfl

theorem update_values (q : Query) (row : Row) :
    Yields (fun f => f.bindings = d.updateValues q row) (d.update q row) := by
  unfold update
  apply (target_yields .update q).bind
  intro table _
  have set : ("set " ++ d.assignments row).bindings = row.values := bindings_assignments row
  cases layout : d.joinedWrites with
  | plain | multiTable =>
    apply (joinList_values q).bind
    intro joins joined
    apply (conditions_values q).bind
    intro conditions met
    refine .ok ?_
    rw [joined, met, set]
    exact orderUpdateBindings_eq q row
  | listed =>
    dsimp only
    split
    · next none =>
      apply (conditions_values q).bind
      intro conditions met
      refine .ok ?_
      rw [met, set, ← Query.joinValues_of_joinless (List.isEmpty_iff.mp none)]
      exact orderUpdateBindings_eq q row
    · apply (foldedConditions_values q).bind
      intro conditions met
      refine .ok ?_
      rw [met.1, met.2, set]
      exact orderUpdateBindings_eq q row

theorem delete_values (q : Query) :
    Yields (fun f => f.bindings = d.deleteValues q) (d.delete q) := by
  have alone (none : q.joins.isEmpty) : d.deleteValues q = q.conditionValues :=
    deleteValues_of_joinless (List.isEmpty_iff.mp none)
  unfold delete
  apply (target_yields .delete q).bind
  intro table _
  cases layout : d.joinedWrites with
  | plain =>
    apply (conditions_values q).bind
    intro conditions met
    refine .ok ?_
    rw [deleteValues, layout]
    exact met
  | multiTable =>
    dsimp only
    split
    · next none =>
      apply (conditions_values q).bind
      intro conditions met
      exact .ok (met.trans (alone none).symm)
    · apply (joinList_values q).bind
      intro joins joined
      apply (conditions_values q).bind
      intro conditions met
      refine .ok ?_
      rw [deleteValues, layout]
      exact congrArg₂ (· ++ ·) joined met
  | listed =>
    dsimp only
    split
    · next none =>
      apply (conditions_values q).bind
      intro conditions met
      exact .ok (met.trans (alone none).symm)
    · apply (foldedConditions_values q).bind
      intro conditions met
      refine .ok ?_
      rw [deleteValues, layout]
      exact congrArg₂ (· ++ ·) met.1 met.2

/-! ## MySQL and PostgreSQL -/

theorem updateValues_perm (p p' : String) (q : Query) (row : Row) :
    ((mySql p).updateValues q row).Perm ((postgres p').updateValues q row) := by
  have behind : (q.joinValues ++ (row.values ++ q.conditionValues)).Perm
    (row.values ++ q.conditionValues ++ q.joinValues) := List.perm_append_comm
  rwa [← List.append_assoc] at behind

theorem deleteValues_perm (p p' : String) (q : Query) :
    ((mySql p).deleteValues q).Perm ((postgres p').deleteValues q) :=
  List.perm_append_comm

/-- One list of values for every select of a query, and for every change the values of its parts in the
order of the dialect. Between MySQL and PostgreSQL only that order differs, and it is the same without
joins. -/
theorem values_bound_once :
    (∀ (d : QueryDialect) (q : Query) (f : Fragment),
      d.select q = .ok f ∨ d.selectExists q = .ok f → f.bindings = q.values) ∧
    (∀ (d : QueryDialect) (q : Query) (row : Row) (f : Fragment),
      d.update q row = .ok f → f.bindings = d.updateValues q row) ∧
    (∀ (d : QueryDialect) (q : Query) (f : Fragment),
      d.delete q = .ok f → f.bindings = d.deleteValues q) ∧
    (∀ (p p' : String) (q : Query) (row : Row) (f g : Fragment),
      (mySql p).update q row = .ok f → (postgres p').update q row = .ok g →
        f.bindings.Perm g.bindings ∧ (q.joins = [] → f.bindings = g.bindings)) ∧
    ∀ (p p' : String) (q : Query) (f g : Fragment),
      (mySql p).delete q = .ok f → (postgres p').delete q = .ok g →
        f.bindings.Perm g.bindings ∧ (q.joins = [] → f.bindings = g.bindings) := by
  have updates (d : QueryDialect) (q : Query) (row : Row) (f : Fragment)
      (written : d.update q row = .ok f) : f.bindings = d.updateValues q row :=
    (written ▸ update_values (d := d) q row).of_ok
  have deletes (d : QueryDialect) (q : Query) (f : Fragment)
      (written : d.delete q = .ok f) : f.bindings = d.deleteValues q :=
    (written ▸ delete_values (d := d) q).of_ok
  refine ⟨fun d q f written => ?_, updates, deletes, fun p p' q row f g written written' => ?_,
    fun p p' q f g written written' => ?_⟩
  · rcases written with written | written
    · exact (written ▸ select_checked (d := d) q).of_ok
    · exact (written ▸ selectExists_values (d := d) q).of_ok
  · rw [updates _ _ _ _ written, updates _ _ _ _ written']
    refine ⟨updateValues_perm p p' q row, fun none => ?_⟩
    rw [updateValues_of_joinless none, updateValues_of_joinless none]
  · rw [deletes _ _ _ written, deletes _ _ _ written']
    refine ⟨deleteValues_perm p p' q, fun none => ?_⟩
    rw [deleteValues_of_joinless none, deleteValues_of_joinless none]

/-- A counted union with values in a join, in a nested condition, behind trusted SQL and in the united
query. -/
def countedUnion : Query where
  aggregate := some ⟨.count, []⟩
  table := some (.name "a")
  joins := [⟨.inner, .name "b", [⟨.and, .compare (.name "b.n") ">" (.value (.int 1))⟩]⟩]
  conditions := [⟨.and, .oneOf false (.name "a.k") []⟩, ⟨.or, .nested [
    ⟨.and, .between true (.name "a.n") (.raw ⟨"b.m"⟩) (.value (.string "x"))⟩,
    ⟨.and, .jsonContains false (.name "a.doc") .null⟩]⟩]
  havings := [⟨.and, .raw ⟨"max(a.n) < ?"⟩ [.bool true]⟩]
  members := [⟨{ conditions := [⟨.and, .raw ⟨""⟩ [.null]⟩] }, true⟩]

def countedUnionValues : List Value :=
  [.int 1, .string "x", .json .null, .bool true, .null]

def countedRow : Row := .ofList [("c", .value (.int 2))]

theorem values_bound_once_countedUnion :
    (∃ f, (mySql "p_").select countedUnion = .ok f ∧ f.bindings = countedUnionValues) ∧
    (∃ f, (postgres "").selectExists countedUnion = .ok f ∧ f.bindings = countedUnionValues) ∧
    (∃ f g, (mySql "").update countedUnion countedRow = .ok f ∧
      (postgres "").update countedUnion countedRow = .ok g ∧
      f.bindings = [.int 1, .int 2, .string "x", .json .null] ∧
      g.bindings = [.int 2, .string "x", .json .null, .int 1] ∧ f.bindings.Perm g.bindings) ∧
    (∃ f g, (mySql "").delete countedUnion = .ok f ∧ (postgres "").delete countedUnion = .ok g ∧
      f.bindings = [.int 1, .string "x", .json .null] ∧
      g.bindings = [.string "x", .json .null, .int 1] ∧ f.bindings.Perm g.bindings) ∧
    ∃ f g, (mySql "").delete { countedUnion with joins := [] } = .ok f ∧
      (postgres "").delete { countedUnion with joins := [] } = .ok g ∧ f.bindings = g.bindings := by
  obtain ⟨selects, updates, deletes, updatesAlike, deletesAlike⟩ := values_bound_once
  have written {x : Except CompileError Fragment}
      (works : x.toOption.map (fun _ => ()) = some ()) : ∃ f, x = .ok f := by
    obtain ⟨f, written, -⟩ := success_of_toOption works
    exact ⟨f, written⟩
  obtain ⟨selected, select⟩ := written (x := (mySql "p_").select countedUnion) (by decide)
  obtain ⟨answered, asked⟩ := written (x := (postgres "").selectExists countedUnion) (by decide)
  obtain ⟨updated, update⟩ := written (x := (mySql "").update countedUnion countedRow) (by decide)
  obtain ⟨updated', update'⟩ :=
    written (x := (postgres "").update countedUnion countedRow) (by decide)
  obtain ⟨deleted, delete⟩ := written (x := (mySql "").delete countedUnion) (by decide)
  obtain ⟨deleted', delete'⟩ := written (x := (postgres "").delete countedUnion) (by decide)
  obtain ⟨alone, deleteAlone⟩ :=
    written (x := (mySql "").delete { countedUnion with joins := [] }) (by decide)
  obtain ⟨alone', deleteAlone'⟩ :=
    written (x := (postgres "").delete { countedUnion with joins := [] }) (by decide)
  exact ⟨⟨selected, select, selects _ _ _ (.inl select)⟩,
    ⟨answered, asked, selects _ _ _ (.inr asked)⟩,
    ⟨updated, updated', update, update', updates _ _ _ _ update, updates _ _ _ _ update',
      (updatesAlike _ _ _ _ _ _ update update').1⟩,
    ⟨deleted, deleted', delete, delete', deletes _ _ _ delete, deletes _ _ _ delete',
      (deletesAlike _ _ _ _ _ delete delete').1⟩,
    alone, alone', deleteAlone, deleteAlone', (deletesAlike _ _ _ _ _ deleteAlone deleteAlone').2 rfl⟩

end QueryDialect
end SqlCompose
