import SqlCompose.Proofs.Congruence.Compatible
import SqlCompose.Proofs.Outcome
import SqlCompose.Proofs.Simulation.Correspondence
import SqlCompose.Select

/-!
# Simulation of the parts of a select

A relation between fragments is a simulation of corresponding queries when it goes through putting
fragments together and holds of what two dialects write for the least parts of the queries: names,
operators, values, trusted SQL and the texts that a dialect brings. It then holds of every clause that
has no query inside. The texts that bound a select and part it from the next are apart, as a relation
may hold of all other clauses but not of these.
-/
namespace SqlCompose

variable {d d' : QueryDialect} {c : Correspondence} {R : Fragment → Fragment → Prop}

namespace Compatible

variable (h : Compatible R)

include h

/-- Fragments made from two lists, item by item. -/
theorem mappedFragments {α β : Type} {sep : String} {items : List α} {items' : List β}
    {f : α → Fragment} {f' : β → Fragment}
    (step : ∀ {f f' g g' : Fragment}, R f f' → R g g' → R (f ++ sep ++ g) (f' ++ sep ++ g'))
    (each : List.Forall₂ (fun x x' => R (f x) (f' x')) items items') :
    R (.joinWith sep (items.map f)) (.joinWith sep (items'.map f')) := by
  apply h.joinWith step
  rwa [List.forall₂_map_left_iff, List.forall₂_map_right_iff]

/-- Texts made from two lists, item by item. -/
theorem mappedTexts {α β : Type} {sep : String} {items : List α} {items' : List β} {f : α → String}
    {f' : β → String}
    (step : ∀ {f f' g g' : Fragment}, R f f' → R g g' → R (f ++ sep ++ g) (f' ++ sep ++ g'))
    (each : List.Forall₂ (fun x x' => R (.ofText (f x)) (.ofText (f' x'))) items items') :
    R (.ofText (Text.joinWith sep (items.map f)))
      (.ofText (Text.joinWith sep (items'.map f'))) := by
  apply h.texts step
  rwa [List.forall₂_map_left_iff, List.forall₂_map_right_iff]

/-- A fixed word in front, written with its space. -/
theorem lead {lead word : String} {f f' : Fragment} (spelled : lead = word ++ " ")
    (known : R (.ofText word) (.ofText word)) (related : R f f') : R (lead ++ f) (lead ++ f') := by
  rw [spelled]
  exact h.space known related

/-- A name with another name that it goes by. -/
theorem named {s s' t t' : String} (name : R (.ofText s) (.ofText s'))
    (knownAs : R (.ofText t) (.ofText t')) :
    R (.ofText (s ++ " as " ++ t)) (.ofText (s' ++ " as " ++ t')) := by
  have spelled (a b : String) : a ++ " as " ++ b = a ++ " " ++ "as" ++ " " ++ b := by
    simp [← String.toList_inj]
  have whole := h.space (h.space name (h.text "as" (by decide))) knownAs
  rw [spelled, spelled]
  exact whole

end Compatible

/-- The relation holds of the least parts of clauses, as two dialects write corresponding ones. -/
structure ClauseSimulation (d d' : QueryDialect) (c : Correspondence)
    (R : Fragment → Fragment → Prop) : Prop extends Compatible R where
  column {s s' : String} : c.column s s' →
    R (.ofText (d.quoter.columnName s)) (.ofText (d'.quoter.columnName s'))
  table {s s' : String} : c.table s s' →
    R (.ofText (d.quoter.tableName s)) (.ofText (d'.quoter.tableName s'))
  operator (given : String) :
    Outcome (fun s s' => R (.ofText s) (.ofText s')) (d.operator given) (d'.operator given)
  value {v v' : Value} : c.value v v' → R (d.value v) (d'.value v')
  expression {s s' : String} : c.expression s s' → R (.ofText s) (.ofText s')
  clause {sql sql' : Expression} {values values' : List Value} :
    c.clause sql.text values sql'.text values' → R (d.raw sql values) (d'.raw sql' values')
  datePart {s s' : String} (part : DatePart) : R (.ofText s) (.ofText s') →
    R (.ofText (d.datePart part s)) (.ofText (d'.datePart part s'))
  jsonContains {s s' : String} {v v' : Value} (negated : Bool) : c.value v v' →
    R (.ofText s) (.ofText s') →
    R ((d.jsonContains negated s).1 ++ d.value v ++ (d.jsonContains negated s).2)
      ((d'.jsonContains negated s').1 ++ d'.value v' ++ (d'.jsonContains negated s').2)
  jsonLength {s s' : String} : R (.ofText s) (.ofText s') →
    R (.ofText (d.jsonLength s)) (.ofText (d'.jsonLength s'))

/-- The relation holds of the least parts of whole queries. -/
structure Simulation (d d' : QueryDialect) (c : Correspondence)
    (R : Fragment → Fragment → Prop) : Prop extends ClauseSimulation d d' c R where
  bracketsUnions : d'.bracketsUnions = d.bracketsUnions
  joinedWrites : d'.joinedWrites = d.joinedWrites
  boundary {s : String} : s ∈ boundaryTexts → R (.ofText s) (.ofText s)
  sharedLock : R (.ofText d.sharedLock) (.ofText d'.sharedLock)
  limit (b : Bounds) : R (.ofText (d.limit b)) (.ofText (d'.limit b))
  offset (b : Bounds) : R (.ofText (d.offset b)) (.ofText (d'.offset b))
  /-- The name that a changed table goes by. -/
  tableAlias {s s' : String} : c.table s s' →
    R (.ofText (d.quoter.tableAlias (.name s))) (.ofText (d'.quoter.tableAlias (.name s')))
  /-- The name that a union goes by where an aggregate selects from it. -/
  unionName : R (.ofText (d.quoter.tableName "temp_table")) (.ofText (d'.quoter.tableName "temp_table"))
  /-- The name of the answer whether a query has rows. -/
  existsName : R (.ofText (d.quoter.part "exists")) (.ofText (d'.quoter.part "exists"))

namespace ClauseSimulation

variable (h : ClauseSimulation d d' c R)

include h

theorem columnIdent {i i' : Ident} (related : c.Columns i i') :
    R (.ofText (d.quoter.column i)) (.ofText (d'.quoter.column i')) := by
  cases related with
  | name related => exact h.column related
  | raw related => exact h.expression related

theorem tableIdent {i i' : Ident} (related : c.Tables i i') :
    R (.ofText (d.quoter.table i)) (.ofText (d'.quoter.table i')) := by
  cases related with
  | name related => exact h.table related
  | raw related => exact h.expression related

theorem columns {names names' : List Ident} (related : List.Forall₂ c.Columns names names') :
    R (.ofText (d.quoter.columns names)) (.ofText (d'.quoter.columns names')) :=
  h.mappedTexts h.comma (related.imp fun _ _ one => h.columnIdent one)

theorem operand {o o' : Operand} (related : c.Operands o o') : R (d.operand o) (d'.operand o') := by
  cases related with
  | value related => exact h.value related
  | raw related => exact h.expression related

theorem operands {os os' : List Operand} (related : List.Forall₂ c.Operands os os') :
    R (d.operands os) (d'.operands os') :=
  h.mappedFragments h.comma (related.imp fun _ _ one => h.operand one)

theorem comparison {left left' given : String} {o o' : Operand}
    (side : R (.ofText left) (.ofText left')) (related : c.Operands o o') :
    Outcome R (d.comparison left given o) (d'.comparison left' given o') := by
  apply (h.operator given).bind
  intro s s' known
  have whole := h.space (h.space side known) (h.operand related)
  exact .pure whole

theorem aggregateText (distinct : Bool) {a a' : Option Aggregate}
    (related : Option.Rel c.Aggregates a a') :
    R (.ofText (d.aggregateText distinct a)) (.ofText (d'.aggregateText distinct a')) := by
  cases related with
  | none => exact h.empty
  | @some a a' related =>
    obtain @⟨function, names, names', related⟩ := related
    have given := h.columns related
    simp only [QueryDialect.aggregateText]
    generalize d.quoter.columns names = t at given ⊢
    generalize d'.quoter.columns names' = t' at given ⊢
    have shown : R (.ofText (if t = "" then "*" else t)) (.ofText (if t' = "" then "*" else t')) := by
      have same_empty : t = "" ↔ t' = "" := h.empty_iff given
      by_cases none : t = ""
      · rw [if_pos none, if_pos (same_empty.mp none)]
        exact h.text "*" (by decide)
      · rw [if_neg none, if_neg (mt same_empty.mpr none)]
        exact given
    generalize (if t = "" then "*" else t) = s at shown ⊢
    generalize (if t' = "" then "*" else t') = s' at shown ⊢
    have counted : R (.ofText (if distinct ∧ s ≠ "*" then "distinct " ++ s else s))
        (.ofText (if distinct ∧ s' ≠ "*" then "distinct " ++ s' else s')) := by
      have same_star := h.star_iff shown
      by_cases count : distinct = true ∧ s ≠ "*"
      · rw [if_pos count, if_pos ⟨count.1, mt same_star.mpr count.2⟩]
        exact h.keyword "distinct" (by decide) shown
      · rw [if_neg count, if_neg fun other => count ⟨other.1, mt same_star.mp other.2⟩]
        exact shown
    have word : function.keyword ∈ fixedTexts := by cases function <;> decide
    have spelled (w t : String) : "select " ++ w ++ "(" ++ t ++ ") as aggregate" =
        "select" ++ " " ++ w ++ ("(" ++ t ++ ")") ++ " as " ++ "aggregate" := by
      simp [← String.toList_inj]
    have call := h.call (h.keyword "select" (by decide) (h.fixed word)) counted
    have whole := h.named call (h.text "aggregate" (by decide))
    rw [spelled, spelled]
    exact whole

theorem columnsText (distinct : Bool) {a a' : Option Aggregate} {names names' : Option (List Ident)}
    (counted : Option.Rel c.Aggregates a a')
    (related : Option.Rel (List.Forall₂ c.Columns) names names') :
    R (.ofText (d.columnsText distinct a names)) (.ofText (d'.columnsText distinct a' names')) := by
  have select : (if distinct then "select distinct" else "select") ∈ fixedTexts := by
    cases distinct <;> decide
  have everything : R (.ofText ((if distinct then "select distinct" else "select") ++ " *"))
      (.ofText ((if distinct then "select distinct" else "select") ++ " *")) := by
    have spelled (s : String) : s ++ " *" = s ++ " " ++ "*" := by simp [← String.toList_inj]
    rw [spelled]
    exact h.space (h.fixed select) (h.text "*" (by decide))
  cases counted with
  | some _ => exact h.empty
  | none =>
    cases related with
    | none => exact everything
    | some related =>
      cases related with
      | nil => exact everything
      | cons first rest => exact h.space (h.fixed select) (h.columns (.cons first rest))

theorem fromText {t t' : Option Ident} (related : Option.Rel c.Tables t t') :
    R (.ofText (d.fromText t)) (.ofText (d'.fromText t')) := by
  cases related with
  | none => exact h.empty
  | some related => exact h.keyword "from" (by decide) (h.tableIdent related)

theorem groupsText {groups groups' : List Ident} (related : List.Forall₂ c.Columns groups groups') :
    R (.ofText (d.groupsText groups)) (.ofText (d'.groupsText groups')) := by
  cases related with
  | nil => exact h.empty
  | cons first rest => exact h.keyword "group by" (by decide) (h.columns (.cons first rest))

theorem orderTexts {keys keys' : List SortKey} (related : List.Forall₂ c.SortKeys keys keys') :
    R (.ofText (Text.joinWith ", " (keys.map d.orderText)))
      (.ofText (Text.joinWith ", " (keys'.map d'.orderText))) := by
  apply h.mappedTexts h.comma
  apply related.imp
  rintro _ _ @⟨direction, column, column', one⟩
  have word : direction.keyword ∈ fixedTexts := by cases direction <;> decide
  exact h.space (h.columnIdent one) (h.fixed word)

theorem havingTest {t t' : HavingTest} (related : c.Tests t t') :
    Outcome R (d.havingTest t) (d'.havingTest t') := by
  cases related with
  | compare left right => exact h.comparison (h.columnIdent left) right
  | raw related => exact .pure (h.clause related)

theorem havingConditions {clauses clauses' : List HavingClause}
    (related : List.Forall₂ c.Havings clauses clauses') :
    Outcome (List.Forall₂ (Compatible.Alike R)) (d.havingConditions clauses)
      (d'.havingConditions clauses') := by
  induction related with
  | nil => exact .pure .nil
  | cons first _ ih =>
    obtain ⟨first⟩ := first
    apply (h.havingTest first).bind
    intro f f' tested
    apply ih.bind
    intro cs cs' others
    exact .pure (.cons ⟨rfl, tested⟩ others)

theorem havings {clauses clauses' : List HavingClause}
    (related : List.Forall₂ c.Havings clauses clauses') :
    Outcome R (d.havings clauses) (d'.havings clauses') := by
  cases related with
  | nil => exact .pure h.empty
  | cons first rest =>
    apply (h.havingConditions (.cons first rest)).bind
    intro cs cs' each
    exact .pure (h.keyword "having" (by decide) (h.joinAll each))

end ClauseSimulation

namespace Simulation

variable (h : Simulation d d' c R)

include h

theorem ordersText {keys keys' : List SortKey} (related : List.Forall₂ c.SortKeys keys keys') :
    R (.ofText (d.ordersText keys)) (.ofText (d'.ordersText keys')) := by
  cases related with
  | nil => exact h.empty
  | cons first rest =>
    have known : "order by" ∈ boundaryTexts := by decide
    exact h.lead rfl (h.boundary known) (h.orderTexts (.cons first rest))

theorem lockText {l l' : Option Lock} (related : Option.Rel c.Locks l l') :
    R (.ofText (d.lockText l)) (.ofText (d'.lockText l')) := by
  cases related with
  | none => exact h.empty
  | some related =>
    cases related with
    | exclusive =>
      have known : "for update" ∈ boundaryTexts := by decide
      exact h.boundary known
    | shared => exact h.sharedLock
    | raw related => exact h.expression related

theorem tableAliasIdent {i i' : Ident} (related : c.Tables i i') :
    R (.ofText (d.quoter.tableAlias i)) (.ofText (d'.quoter.tableAlias i')) := by
  cases related with
  | name related => exact h.tableAlias related
  | raw related => exact h.expression related

end Simulation
end SqlCompose
