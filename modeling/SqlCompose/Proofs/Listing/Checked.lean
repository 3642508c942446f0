import SqlCompose.Proofs.Listing.Items
import SqlCompose.Proofs.Simulation.Select

/-!
# Checks and values of a select

Writing a query checks its operators one after another. The first that the dialect does not let through
stops it; if there is none, the query is written, and its values are bound in the order in which they
stand in it (`select_checked`).
-/
namespace SqlCompose.QueryDialect

variable (d : QueryDialect)

/-- The operator is let through: it is one of the dialect's once it is trimmed and in lower case. -/
def Allows (given : String) : Prop := Text.lowercase (Text.trim given) ∈ d.operators

/-- The first of the operators that is not let through. -/
def FirstRefused (operators : List String) (given : String) : Prop :=
  ∃ before after, operators = before ++ given :: after ∧ (∀ o ∈ before, d.Allows o) ∧
    ¬ d.Allows given

/-- The result of checking the operators in turn: one with the property if all are let through. -/
inductive Checked {β : Type} (operators : List String) (P : β → Prop) : Except CompileError β → Prop
  | ok {b : β} (allowed : ∀ o ∈ operators, d.Allows o) (holds : P b) : Checked operators P (.ok b)
  | error {given : String} (first : d.FirstRefused operators given) :
    Checked operators P (.error (.invalidOperator d.name given))

variable {d}

theorem FirstRefused.mem {operators : List String} {given : String}
    (first : d.FirstRefused operators given) : given ∈ operators := by
  obtain ⟨before, after, rfl, -, -⟩ := first
  simp

theorem FirstRefused.refused {operators : List String} {given : String}
    (first : d.FirstRefused operators given) : ¬ d.Allows given := by
  obtain ⟨_, _, _, -, refused⟩ := first
  exact refused

namespace Checked

variable {β γ : Type} {operators more : List String} {P : β → Prop} {Q : γ → Prop}

theorem pure {b : β} (holds : P b) : d.Checked [] P (Pure.pure b) := .ok (by simp) holds

/-- The checks of the first step come before those of the next. -/
theorem bind {x : Except CompileError β} {f : β → Except CompileError γ}
    (first : d.Checked operators P x) (next : ∀ b, P b → d.Checked more Q (f b)) :
    d.Checked (operators ++ more) Q (x >>= f) := by
  cases first with
  | error first =>
    obtain ⟨before, after, rfl, allowed, refused⟩ := first
    exact .error ⟨before, after ++ more, by simp, allowed, refused⟩
  | @ok b allowed holds =>
    have rest := next b holds
    show d.Checked (operators ++ more) Q (f b)
    generalize f b = y at rest ⊢
    cases rest with
    | ok allowed' holds =>
      refine .ok (fun o member => ?_) holds
      exact (List.mem_append.mp member).elim (allowed o) (allowed' o)
    | error first =>
      obtain ⟨before, after, rfl, allowed', refused⟩ := first
      refine .error ⟨operators ++ before, after, by simp, fun o member => ?_, refused⟩
      exact (List.mem_append.mp member).elim (allowed o) (allowed' o)

theorem map {x : Except CompileError β} {f : β → γ} (first : d.Checked operators P x)
    (next : ∀ b, P b → Q (f b)) : d.Checked operators Q (do return f (← x)) := by
  have both := first.bind fun b holds => Checked.pure (d := d) (next b holds)
  rwa [List.append_nil] at both

/-- A checked computation fails just when an operator is refused, and then for the first of these. -/
theorem error_iff {x : Except CompileError β} (checked : d.Checked operators P x) (e : CompileError) :
    x = .error e ↔ ∃ given, d.FirstRefused operators given ∧ e = .invalidOperator d.name given := by
  cases checked with
  | ok allowed _ =>
    constructor
    · intro failed
      cases failed
    · rintro ⟨given, first, -⟩
      exact absurd (allowed given first.mem) first.refused
  | @error given first =>
    constructor
    · intro failed
      cases failed
      exact ⟨given, first, rfl⟩
    · rintro ⟨other, first', rfl⟩
      obtain ⟨before, after, rfl, allowed, refused⟩ := first
      obtain ⟨before', after', same, allowed', refused'⟩ := first'
      -- Neither of two first refused operators stands before the other.
      have equal : given = other := by
        rcases List.append_eq_append_iff.mp same with ⟨between, rfl, rest⟩ | ⟨between, rfl, rest⟩
        · cases between with
          | nil => exact (List.cons.inj rest).1
          | cons o between =>
            obtain ⟨rfl, -⟩ := List.cons.inj rest
            exact absurd (allowed' given (by simp)) refused
        · cases between with
          | nil => exact (List.cons.inj rest).1.symm
          | cons o between =>
            obtain ⟨rfl, -⟩ := List.cons.inj rest
            exact absurd (allowed other (by simp)) refused'
      rw [equal]

theorem fails_iff {x : Except CompileError β} (checked : d.Checked operators P x) :
    (∃ e, x = .error e) ↔ ∃ given ∈ operators, ¬ d.Allows given := by
  cases checked with
  | ok allowed _ =>
    constructor
    · rintro ⟨e, failed⟩
      cases failed
    · rintro ⟨given, member, refused⟩
      exact absurd (allowed given member) refused
  | error first => exact ⟨fun _ => ⟨_, first.mem, first.refused⟩, fun _ => ⟨_, rfl⟩⟩

theorem of_ok {b : β} (checked : d.Checked operators P (.ok b)) : P b := by
  cases checked with
  | ok _ holds => exact holds

end Checked

/-! ## Values of the parts of a select -/

theorem bindings_operand (o : Operand) : (d.operand o).bindings = o.values := by
  cases o <;> rfl

theorem bindings_operands (os : List Operand) :
    (d.operands os).bindings = os.flatMap Operand.values := by
  show (os.map d.operand).flatMap Fragment.bindings = _
  rw [List.flatMap_map]
  exact congrArg (List.flatMap · os) (funext bindings_operand)

theorem bindings_under (keyword : String) (conditions : List Condition) :
    (Condition.under keyword conditions).bindings = Condition.allBindings conditions := by
  unfold Condition.under
  dsimp only
  split <;> rfl

theorem bindings_assembleJoin (kind : JoinKind) (table : Ident) (conditions : List Condition) :
    (d.assembleJoin kind table conditions).bindings = Condition.allBindings conditions :=
  bindings_under "on" conditions

theorem bindings_bracket (f : Fragment) : (d.bracket f).bindings = f.bindings := by
  unfold bracket
  split <;> rfl

theorem bindings_assemble (q : Query) (aggregate : Option Aggregate)
    (joins conditions havings : Fragment) :
    (d.assemble q aggregate joins conditions havings).bindings =
      joins.bindings ++ (conditions.bindings ++ havings.bindings) := by
  simp [assemble, Fragment.concat, Fragment.allBindings, boundTexts]

theorem bindings_assembleUnion (q : Query) (members : List Fragment) :
    (d.assembleUnion q members).bindings = Fragment.allBindings members := by
  simp [assembleUnion, Fragment.concat, Fragment.allBindings]

/-- The values of the united queries come last, also under an aggregate. -/
theorem bindings_assembleSelect (q : Query) (joins conditions havings : Fragment)
    (united : List Fragment) :
    (d.assembleSelect q joins conditions havings united).bindings =
      joins.bindings ++ (conditions.bindings ++ (havings.bindings ++
        Fragment.allBindings united)) := by
  unfold assembleSelect
  cases united with
  | nil => simp [bindings_assemble, Fragment.allBindings]
  | cons first others =>
    cases q.aggregate <;>
      simp [aggregateOver, bindings_bracket, bindings_assemble, bindings_assembleUnion]

/-! ## Checks -/

theorem operator_checked (given : String) :
    d.Checked [given] (fun _ => True) (d.operator given) := by
  unfold operator
  dsimp only
  split
  · next known => exact .ok (by simpa [Allows] using known) trivial
  · next unknown => exact .error ⟨[], [], rfl, by simp, unknown⟩

theorem comparison_checked (left given : String) (o : Operand) :
    d.Checked [given] (fun f => f.bindings = o.values) (d.comparison left given o) :=
  (operator_checked given).map fun _ _ => bindings_operand o

theorem havingTest_checked (t : HavingTest) :
    d.Checked t.operators (fun f => f.bindings = t.values) (d.havingTest t) := by
  cases t with
  | compare column operator operand => exact comparison_checked _ operator operand
  | raw sql bindings => exact .pure rfl

theorem havingConditions_checked (clauses : List HavingClause) :
    d.Checked (havingItems operatorListing clauses)
      (fun cs => Condition.allBindings cs = havingItems valueListing clauses)
      (d.havingConditions clauses) := by
  induction clauses with
  | nil => exact .pure rfl
  | cons clause clauses ih =>
    apply (havingTest_checked clause.test).bind
    intro f own
    apply ih.map
    intro cs others
    exact congrArg₂ (· ++ ·) own others

theorem havings_checked (clauses : List HavingClause) :
    d.Checked (havingItems operatorListing clauses)
      (fun f => f.bindings = havingItems valueListing clauses) (d.havings clauses) := by
  cases clauses with
  | nil => exact .pure rfl
  | cons clause clauses =>
    apply (havingConditions_checked (clause :: clauses)).map
    intro cs values
    exact values

mutual
/-- A query is written with its values in order unless one of its operators is refused. -/
theorem select_checked : ∀ q : Query,
    d.Checked q.operators (fun f => f.bindings = q.values) (d.select q)
  | { joins, conditions, havings, members, .. } => by
    apply (joinFragments_checked joins).bind
    intro js joined
    apply (conditionList_checked conditions).bind
    intro cs met
    apply (havings_checked havings).bind
    intro hs had
    apply (memberList_checked members).map
    intro ms united
    rw [bindings_assembleSelect, bindings_under, met, had, united]
    exact congrArg (· ++ _) joined

theorem joinFragments_checked : ∀ joins : List Join,
    d.Checked (joinItems operatorListing joins)
      (fun fs => Fragment.allBindings fs = joinItems valueListing joins) (d.joinFragments joins)
  | [] => .pure rfl
  | { kind, table, conditions } :: joins => by
    apply (conditionList_checked conditions).bind
    intro cs met
    apply (joinFragments_checked joins).map
    intro fs others
    exact congrArg₂ (· ++ ·) ((bindings_assembleJoin kind table cs).trans met) others

theorem conditionList_checked : ∀ clauses : List Clause,
    d.Checked (clauseItems operatorListing clauses)
      (fun cs => Condition.allBindings cs = clauseItems valueListing clauses)
      (d.conditionList clauses)
  | [] => .pure rfl
  | { predicate, .. } :: clauses => by
    apply (predicateText_checked predicate).bind
    intro f own
    apply (conditionList_checked clauses).map
    intro cs others
    exact congrArg₂ (· ++ ·) own others

theorem predicateText_checked : ∀ p : Predicate,
    d.Checked (p.items operatorListing) (fun f => f.bindings = p.items valueListing)
      (d.predicateText p)
  | .compare _ operator operand => comparison_checked _ operator operand
  | .compareColumns _ operator _ => (operator_checked operator).map fun _ _ => rfl
  | .oneOf _ _ [] => .pure rfl
  | .oneOf _ _ (o :: os) => .pure (bindings_operands (o :: os))
  | .oneOfQuery _ _ query => (select_checked query).map fun _ inner => inner
  | .null _ _ => .pure rfl
  | .between _ _ low high => .pure (congrArg₂ (· ++ ·) (bindings_operand low) (bindings_operand high))
  | .existsQuery _ query => (select_checked query).map fun _ inner => inner
  | .nested clauses => by
    apply (conditionList_checked clauses).map
    intro cs inner
    split <;> exact inner
  | .raw _ _ => .pure rfl
  | .datePart _ _ operator operand => comparison_checked _ operator operand
  | .jsonContains _ _ _ => .pure rfl
  | .jsonLength _ operator operand => comparison_checked _ operator operand

theorem memberList_checked : ∀ members : List Member,
    d.Checked (memberItems operatorListing members)
      (fun fs => Fragment.allBindings fs = memberItems valueListing members)
      (d.memberList members)
  | [] => .pure rfl
  | { query, all } :: members => by
    apply (select_checked query).bind
    intro f inner
    apply (memberList_checked members).map
    intro fs others
    exact congrArg₂ (· ++ ·) ((bindings_bracket f).trans inner) others
end

end SqlCompose.QueryDialect
