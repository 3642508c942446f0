import SqlCompose.Proofs.Simulation.Select

/-!
# Congruence on the parts of a select

Two dialects are congruent when what they write for one query is related: a relation between fragments
is a congruence when it goes through putting fragments together and holds of the least parts of a
query, its names, operators, values, allowed expressions and the texts that a dialect brings. So a
congruence is a simulation in which every query corresponds to itself (`ClauseCongruence.simulation`),
and holds of every clause that has no query inside. The texts that bound a select and part it from the
next are apart, as a relation may hold of all other clauses but not of these.
-/
namespace SqlCompose

/-- The relation holds of the least parts of clauses, as two dialects write them. -/
structure ClauseCongruence (d d' : QueryDialect) (rule : ExpressionRule)
    (R : Fragment → Fragment → Prop) : Prop extends Compatible R where
  tablePrefix : d'.quoter.tablePrefix = d.quoter.tablePrefix
  part (s : String) : R (.ofText (d.quoter.part s)) (.ofText (d'.quoter.part s))
  operator (given : String) :
    Outcome (fun s s' => R (.ofText s) (.ofText s')) (d.operator given) (d'.operator given)
  value (v : Value) : R (d.value v) (d'.value v)
  expression {s : String} : rule.text s → R (.ofText s) (.ofText s)
  clause {sql : Expression} {values : List Value} : rule.clause sql.text values →
    R (d.raw sql values) (d'.raw sql values)
  datePart {s s' : String} (part : DatePart) : R (.ofText s) (.ofText s') →
    R (.ofText (d.datePart part s)) (.ofText (d'.datePart part s'))
  jsonContains {s s' : String} (negated : Bool) (v : Value) : R (.ofText s) (.ofText s') →
    R ((d.jsonContains negated s).1 ++ d.value v ++ (d.jsonContains negated s).2)
      ((d'.jsonContains negated s').1 ++ d'.value v ++ (d'.jsonContains negated s').2)
  jsonLength {s s' : String} : R (.ofText s) (.ofText s') →
    R (.ofText (d.jsonLength s)) (.ofText (d'.jsonLength s'))

/-- The relation holds of the least parts of a whole query. -/
structure Congruence (d d' : QueryDialect) (rule : ExpressionRule)
    (R : Fragment → Fragment → Prop) : Prop extends ClauseCongruence d d' rule R where
  bracketsUnions : d'.bracketsUnions = d.bracketsUnions
  joinedWrites : d'.joinedWrites = d.joinedWrites
  boundary {s : String} : s ∈ boundaryTexts → R (.ofText s) (.ofText s)
  sharedLock : R (.ofText d.sharedLock) (.ofText d'.sharedLock)
  limit (b : Bounds) : R (.ofText (d.limit b)) (.ofText (d'.limit b))
  offset (b : Bounds) : R (.ofText (d.offset b)) (.ofText (d'.offset b))

variable {d d' : QueryDialect} {rule : ExpressionRule} {R : Fragment → Fragment → Prop}

namespace ClauseCongruence

variable (h : ClauseCongruence d d' rule R)

include h

theorem dotted (parts : List String) :
    R (.ofText (Text.joinWith "." (parts.map d.quoter.part)))
      (.ofText (Text.joinWith "." (parts.map d'.quoter.part))) :=
  h.mappedTexts h.dot (List.forall₂_same.mpr fun s _ => h.part s)

theorem columnParts (name : String) :
    R (.ofText (d.quoter.columnParts name)) (.ofText (d'.quoter.columnParts name)) := by
  unfold Quoter.columnParts
  rw [h.tablePrefix]
  cases dottedParts name with
  | nil => exact h.dotted []
  | cons qualifier rest =>
    cases rest with
    | nil => exact h.dotted [qualifier]
    | cons s rest => exact h.dotted ((d.quoter.tablePrefix ++ qualifier) :: s :: rest)

theorem columnName (name : String) :
    R (.ofText (d.quoter.columnName name)) (.ofText (d'.quoter.columnName name)) := by
  unfold Quoter.columnName
  cases splitAlias? name with
  | none => exact h.columnParts name
  | some both => exact h.named (h.columnParts both.1) (h.part both.2)

theorem tableName (name : String) :
    R (.ofText (d.quoter.tableName name)) (.ofText (d'.quoter.tableName name)) := by
  unfold Quoter.tableName Quoter.tableParts
  rw [h.tablePrefix]
  cases splitAlias? name with
  | none => exact h.dotted _
  | some both => exact h.named (h.dotted _) (h.part _)

theorem tableAlias (name : String) :
    R (.ofText (d.quoter.tableAlias (.name name))) (.ofText (d'.quoter.tableAlias (.name name))) := by
  cases found : splitAlias? name with
  | none => simpa only [Quoter.tableAlias, found] using h.tableName name
  | some both => simpa only [Quoter.tableAlias, found, h.tablePrefix] using h.part _

/-- One query, written in both dialects. -/
theorem simulation : ClauseSimulation d d' rule.diagonal R where
  toCompatible := h.toCompatible
  column := by
    rintro _ s rfl
    exact h.columnName s
  table := by
    rintro _ s rfl
    exact h.tableName s
  operator := h.operator
  value := by
    rintro _ v rfl
    exact h.value v
  expression := by
    rintro s _ ⟨allowed, rfl⟩
    exact h.expression allowed
  clause := by
    rintro ⟨sql⟩ ⟨_⟩ values _ ⟨allowed, rfl, rfl⟩
    exact h.clause allowed
  datePart := h.datePart
  jsonContains := by
    rintro s s' _ v negated rfl related
    exact h.jsonContains negated v related
  jsonLength := h.jsonLength

theorem column {i : Ident} (allowed : i.Obeys rule) :
    R (.ofText (d.quoter.column i)) (.ofText (d'.quoter.column i)) :=
  h.simulation.columnIdent (allowed.columns rule.within_diagonal)

theorem operand {o : Operand} (allowed : o.Obeys rule) : R (d.operand o) (d'.operand o) :=
  h.simulation.operand (allowed.operands rule.within_diagonal)

theorem operands {os : List Operand} (allowed : ∀ o ∈ os, o.Obeys rule) :
    R (d.operands os) (d'.operands os) :=
  h.simulation.operands (Operand.operands_of_obey rule.within_diagonal allowed)

theorem comparison {left left' given : String} {o : Operand}
    (side : R (.ofText left) (.ofText left')) (allowed : o.Obeys rule) :
    Outcome R (d.comparison left given o) (d'.comparison left' given o) :=
  h.simulation.comparison side (allowed.operands rule.within_diagonal)

theorem columnsText (distinct : Bool) {names : Option (List Ident)}
    (allowed : ∀ i ∈ names.getD [], i.Obeys rule) :
    R (.ofText (d.columnsText distinct none names)) (.ofText (d'.columnsText distinct none names)) :=
  h.simulation.columnsText distinct .none <| rel_of_some fun given same =>
    Ident.columns_of_obey rule.within_diagonal (by simpa [same] using allowed)

theorem fromText {t : Option Ident} (allowed : ∀ i, t = some i → i.Obeys rule) :
    R (.ofText (d.fromText t)) (.ofText (d'.fromText t)) :=
  h.simulation.fromText (Ident.table_of_obey rule.within_diagonal allowed)

theorem groupsText {groups : List Ident} (allowed : ∀ i ∈ groups, i.Obeys rule) :
    R (.ofText (d.groupsText groups)) (.ofText (d'.groupsText groups)) :=
  h.simulation.groupsText (Ident.columns_of_obey rule.within_diagonal allowed)

theorem orderTexts {keys : List SortKey} (allowed : ∀ key ∈ keys, key.column.Obeys rule) :
    R (.ofText (Text.joinWith ", " (keys.map d.orderText)))
      (.ofText (Text.joinWith ", " (keys.map d'.orderText))) :=
  h.simulation.orderTexts (SortKey.keys_of_obey rule.within_diagonal allowed)

theorem havings {clauses : List HavingClause} (allowed : ∀ c ∈ clauses, c.test.Obeys rule) :
    Outcome R (d.havings clauses) (d'.havings clauses) :=
  h.simulation.havings (HavingClause.havings_of_obey rule.within_diagonal allowed)

theorem assembleJoin {kind : JoinKind} {table : Ident} {cs cs' : List Condition}
    (allowed : table.Obeys rule) (each : List.Forall₂ (Compatible.Alike R) cs cs') :
    R (d.assembleJoin kind table cs) (d'.assembleJoin kind table cs') :=
  h.simulation.assembleJoin (allowed.tables rule.within_diagonal) each

end ClauseCongruence
end SqlCompose
