import SqlCompose.Proofs.Simulation.Select
import SqlCompose.Write

/-!
# Simulation of updates and deletes

An update collects the values of its joins, conditions and assignments apart; the order in which a
dialect puts them back together is that of its text. So updates and deletes are their clauses one after
another, values included (`update_eq`, `delete_eq`), and a simulation goes through them clause by
clause.
-/
namespace SqlCompose

open Compatible (Alike)

/-- The clauses end in texts without values. -/
theorem Fragment.concat_texts (fs : List Fragment) (texts : List String) :
    Fragment.concat (fs ++ texts.map .ofText) =
      ⟨concatenate (fs.map Fragment.sql ++ texts), Fragment.allBindings fs⟩ := by
  apply Fragment.ext
  · simp [Fragment.concat, Function.comp_def]
  · simp [Fragment.concat, Fragment.allBindings]

namespace QueryDialect

variable (d : QueryDialect) (q : Query)

/-- Conditions of a statement and then those of its joins, as one clause. -/
def FoldedConditions.clause (c : FoldedConditions) : Fragment := ⟨c.sql, c.own ++ c.joined⟩

/-- An update is its clauses in the order of its text. -/
theorem update_eq (values : Row) : d.update q values = do
    let table ← d.target .update q
    let head := Fragment.ofText ("update " ++ table)
    let set := "set " ++ d.assignments values
    match d.joinedWrites with
    | .plain => do
      let joins ← d.joinList q.joins
      let conditions ← d.conditions q.conditions
      return .concat [head, joins, set, conditions]
    | .multiTable => do
      let joins ← d.joinList q.joins
      let conditions ← d.conditions q.conditions
      return .concat ([head, joins, set, conditions] ++
        (if q.joins.isEmpty then d.tail q else []).map .ofText)
    | .listed =>
      if q.joins.isEmpty then do
        let conditions ← d.conditions q.conditions
        return .concat [head, set, conditions]
      else do
        let conditions ← d.foldedConditions q
        return .concat [head, set, .ofText ("from " ++ d.joinedTables q), conditions.clause] := by
  unfold update orderUpdateBindings
  refine bind_congr fun table => ?_
  cases d.joinedWrites with
  | plain =>
    refine bind_congr fun joins => bind_congr fun conditions => congrArg Except.ok ?_
    apply Fragment.ext <;> simp [Fragment.concat, Fragment.allBindings]
  | multiTable =>
    refine bind_congr fun joins => bind_congr fun conditions => congrArg Except.ok ?_
    rw [Fragment.concat_texts]
    apply Fragment.ext <;> simp [Fragment.allBindings]
  | listed =>
    dsimp only
    split
    · refine bind_congr fun conditions => congrArg Except.ok ?_
      apply Fragment.ext <;> simp [Fragment.concat, Fragment.allBindings]
    · refine bind_congr fun conditions => congrArg Except.ok ?_
      apply Fragment.ext <;>
        simp [Fragment.concat, Fragment.allBindings, FoldedConditions.clause]

/-- A delete is its clauses in the order of its text. -/
theorem delete_eq : d.delete q = do
    let table ← d.target .delete q
    let head := Fragment.ofText ("delete from " ++ table)
    match d.joinedWrites with
    | .plain => do
      let conditions ← d.conditions q.conditions
      return .concat [head, conditions]
    | .multiTable =>
      if q.joins.isEmpty then do
        let conditions ← d.conditions q.conditions
        return .concat ([head, conditions] ++ (d.tail q).map .ofText)
      else do
        let name := (q.table.map d.quoter.tableAlias).getD ""
        let joins ← d.joinList q.joins
        let conditions ← d.conditions q.conditions
        return .concat [.ofText ("delete " ++ name ++ " from " ++ table), joins, conditions]
    | .listed =>
      if q.joins.isEmpty then do
        let conditions ← d.conditions q.conditions
        return .concat [head, conditions]
      else do
        let conditions ← d.foldedConditions q
        return .concat [head, .ofText ("using " ++ d.joinedTables q), conditions.clause] := by
  unfold delete
  refine bind_congr fun table => ?_
  cases d.joinedWrites with
  | plain =>
    refine bind_congr fun conditions => congrArg Except.ok ?_
    apply Fragment.ext <;> simp [Fragment.concat, Fragment.allBindings]
  | multiTable =>
    dsimp only
    split
    · refine bind_congr fun conditions => congrArg Except.ok ?_
      rw [Fragment.concat_texts]
      apply Fragment.ext <;> simp [Fragment.allBindings]
    · refine bind_congr fun joins => bind_congr fun conditions => congrArg Except.ok ?_
      apply Fragment.ext <;> simp [Fragment.concat, Fragment.allBindings]
  | listed =>
    dsimp only
    split
    · refine bind_congr fun conditions => congrArg Except.ok ?_
      apply Fragment.ext <;> simp [Fragment.concat, Fragment.allBindings]
    · refine bind_congr fun conditions => congrArg Except.ok ?_
      apply Fragment.ext <;>
        simp [Fragment.concat, Fragment.allBindings, FoldedConditions.clause]

/-- The conditions of a statement and of its joins stand behind `where`. -/
theorem folded_clause (own joined : List Condition) :
    FoldedConditions.clause ⟨(Condition.under "where" (own ++ joined)).sql,
      Condition.allBindings own, Condition.allBindings joined⟩ =
      Condition.under "where" (own ++ joined) := by
  apply Fragment.ext
  · rfl
  · simp only [FoldedConditions.clause, Condition.under]
    split <;> simp [Condition.join, Condition.allBindings]

end QueryDialect

namespace Simulation

variable {d d' : QueryDialect} {c : Correspondence} {R : Fragment → Fragment → Prop}
  (h : Simulation d d' c R)

include h

theorem target {statement : Statement} {q q' : Query} (named : Option.Rel c.Tables q.table q'.table) :
    Outcome (fun s s' => R (.ofText s) (.ofText s')) (d.target statement q)
      (d'.target statement q') := by
  unfold QueryDialect.target
  generalize q.table = t at named ⊢
  generalize q'.table = t' at named ⊢
  cases named with
  | none => exact .error _
  | some related => exact .ok (h.tableIdent related)

theorem insertUsing {q q' source source' : Query} {columns columns' : List Ident}
    (into : Option.Rel c.Tables q.table q'.table) (listed : List.Forall₂ c.Columns columns columns')
    (related : c.Queries source source') :
    Outcome R (d.insertUsing q columns source) (d'.insertUsing q' columns' source') := by
  have spelled (s t : String) (f : Fragment) : "insert into " ++ s ++ " (" ++ t ++ ") " ++ f =
      Fragment.ofText "insert into" ++ " " ++ Fragment.ofText s ++ " " ++
        ("(" ++ Fragment.ofText t ++ ")") ++ " " ++ f := by
    apply Fragment.ext <;> simp [← String.toList_inj, Fragment.ofText]
  apply (h.target into).bind
  intro table table' named
  apply (h.select related).bind
  intro f f' rows
  rw [spelled, spelled]
  have into := h.keyword "insert into" (by decide) named
  exact .pure (h.space (h.space into (h.bracket (h.columns listed))) rows)

theorem assigned {s s' : String} {f f' : Fragment} (left : R (.ofText s) (.ofText s'))
    (right : R f f') : R (s ++ " = " ++ f) (s' ++ " = " ++ f') := by
  have spelled (s : String) (f : Fragment) :
      s ++ " = " ++ f = Fragment.ofText s ++ " " ++ "=" ++ " " ++ f := by
    apply Fragment.ext <;> simp [← String.toList_inj, Fragment.ofText]
  rw [spelled, spelled]
  exact h.space (h.word left "=" (by decide)) right

theorem assignments {values values' : Row} (related : c.Rows values values') :
    R (d.assignments values) (d'.assignments values') :=
  h.mappedFragments h.comma
    (related.imp fun _ _ one => h.assigned (h.column one.1) (h.operand one.2))

theorem allJoinConditions {joins joins' : List Join} (related : c.JoinLists joins joins') :
    Outcome (List.Forall₂ (Alike R)) (d.allJoinConditions joins) (d'.allJoinConditions joins') := by
  induction joins generalizing joins' with
  | nil =>
    cases related with
    | nil => exact .pure .nil
  | cons join joins ih =>
    cases related with
    | cons _ met others =>
      apply (h.conditionList met).bind
      intro cs cs' each
      apply (ih others).bind
      intro es es' rest
      exact .pure (List.rel_append each rest)

theorem joinedTables {q q' : Query} (related : c.JoinLists q.joins q'.joins) :
    R (.ofText (d.joinedTables q)) (.ofText (d'.joinedTables q')) := by
  apply h.mappedTexts h.comma
  generalize q.joins = joins at related
  generalize q'.joins = joins' at related
  induction joins generalizing joins' with
  | nil =>
    cases related with
    | nil => exact .nil
  | cons join joins ih =>
    cases related with
    | cons named _ others => exact .cons (h.tableIdent named) (ih _ others)

theorem foldedConditions {q q' : Query} (own : c.ClauseLists q.conditions q'.conditions)
    (joined : c.JoinLists q.joins q'.joins) :
    Outcome (fun e e' => R e.clause e'.clause) (d.foldedConditions q) (d'.foldedConditions q') := by
  apply (h.conditionList own).bind
  intro cs cs' first
  apply (h.allJoinConditions joined).bind
  intro es es' rest
  apply Outcome.pure
  rw [QueryDialect.folded_clause, QueryDialect.folded_clause]
  exact h.under "where" (by decide) (List.rel_append first rest)

theorem tail {q q' : Query} (parts : c.Parts q q') :
    List.Forall₂ R ((d.tail q).map .ofText) ((d'.tail q').map .ofText) := by
  unfold QueryDialect.tail QueryDialect.bounds
  rw [parts.limit, parts.offset]
  exact .cons (h.ordersText parts.orders) (.cons (h.limit _) .nil)

omit h in
theorem joinless {joins joins' : List Join} (related : c.JoinLists joins joins') :
    joins'.isEmpty = joins.isEmpty := by
  cases related <;> rfl

theorem update {q q' : Query} {values values' : Row} (related : c.Queries q q')
    (given : c.Rows values values') : Outcome R (d.update q values) (d'.update q' values') := by
  obtain ⟨parts, joins, conditions, _⟩ := related
  have set := h.keyword "set" (by decide) (h.assignments given)
  rw [d.update_eq, d'.update_eq, h.joinedWrites, joinless joins]
  apply (h.target parts.table).bind
  intro table table' named
  have head := h.keyword "update" (by decide) named
  cases d.joinedWrites with
  | plain =>
    apply (h.joinList joins).bind
    intro js js' joined
    apply (h.conditions conditions).bind
    intro cs cs' met
    exact .pure (h.concat (.cons head (.cons joined (.cons set (.cons met .nil)))))
  | multiTable =>
    have rest : List.Forall₂ R ((if q.joins.isEmpty then d.tail q else []).map .ofText)
        ((if q.joins.isEmpty then d'.tail q' else []).map .ofText) := by
      split
      · exact h.tail parts
      · exact .nil
    apply (h.joinList joins).bind
    intro js js' joined
    apply (h.conditions conditions).bind
    intro cs cs' met
    have clauses := List.Forall₂.cons head (.cons joined (.cons set (.cons met .nil)))
    exact .pure (h.concat (List.rel_append clauses rest))
  | listed =>
    dsimp only
    split
    · apply (h.conditions conditions).bind
      intro cs cs' met
      exact .pure (h.concat (.cons head (.cons set (.cons met .nil))))
    · have source := h.keyword "from" (by decide) (h.joinedTables joins)
      apply (h.foldedConditions conditions joins).bind
      intro e e' met
      exact .pure (h.concat (.cons head (.cons set (.cons source (.cons met .nil)))))

theorem delete {q q' : Query} (related : c.Queries q q') :
    Outcome R (d.delete q) (d'.delete q') := by
  obtain ⟨parts, joins, conditions, _⟩ := related
  rw [d.delete_eq, d'.delete_eq, h.joinedWrites, joinless joins]
  apply (h.target parts.table).bind
  intro table table' named
  have head := h.keyword "delete from" (by decide) named
  cases d.joinedWrites with
  | plain =>
    apply (h.conditions conditions).bind
    intro cs cs' met
    exact .pure (h.concat (.cons head (.cons met .nil)))
  | multiTable =>
    dsimp only
    split
    · apply (h.conditions conditions).bind
      intro cs cs' met
      exact .pure (h.concat (List.rel_append (.cons head (.cons met .nil)) (h.tail parts)))
    · have spelled (s t : String) : Fragment.ofText ("delete " ++ s ++ " from " ++ t) =
          "delete" ++ " " ++ Fragment.ofText s ++ " " ++ "from" ++ " " ++ Fragment.ofText t := by
        apply Fragment.ext <;> simp [String.append_assoc]
      have name : R (.ofText ((q.table.map d.quoter.tableAlias).getD ""))
          (.ofText ((q'.table.map d'.quoter.tableAlias).getD "")) := by
        have changed := parts.table
        generalize q.table = t at changed ⊢
        generalize q'.table = t' at changed ⊢
        cases changed with
        | none => exact h.empty
        | some related => exact h.tableAliasIdent related
      have first := h.space (h.word (h.keyword "delete" (by decide) name) "from" (by decide)) named
      apply (h.joinList joins).bind
      intro js js' joined
      apply (h.conditions conditions).bind
      intro cs cs' met
      simp only [spelled]
      exact .pure (h.concat (.cons first (.cons joined (.cons met .nil))))
  | listed =>
    dsimp only
    split
    · apply (h.conditions conditions).bind
      intro cs cs' met
      exact .pure (h.concat (.cons head (.cons met .nil)))
    · have source := h.keyword "using" (by decide) (h.joinedTables joins)
      apply (h.foldedConditions conditions joins).bind
      intro e e' met
      exact .pure (h.concat (.cons head (.cons source (.cons met .nil))))

end Simulation
end SqlCompose
