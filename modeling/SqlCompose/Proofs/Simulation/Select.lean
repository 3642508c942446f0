import SqlCompose.Proofs.Simulation.Parts

/-!
# Simulation of selects

Under a simulation, corresponding queries fail alike or are written as related selects
(`Simulation.select`). The induction is on the correspondence: a query, its joins, conditions and
united queries together, as they hold each other.
-/
namespace SqlCompose

variable {d d' : QueryDialect} {c : Correspondence} {R : Fragment → Fragment → Prop}

open Compatible (Alike)

namespace QueryDialect

/-! ## Tests as words in a row -/

theorem within_spelled (negated : Bool) (s : String) (f : Fragment) :
    s ++ " " ++ notText negated ++ "in (" ++ f ++ ")" =
      Fragment.ofText s ++ " " ++ (if negated then "not in" else "in") ++ " " ++
        ("(" ++ f ++ ")") := by
  cases negated <;>
    apply Fragment.ext <;> simp [notText, ← String.toList_inj, Fragment.ofText]

theorem between_spelled (negated : Bool) (s : String) (f g : Fragment) :
    s ++ " " ++ notText negated ++ "between " ++ f ++ " and " ++ g =
      Fragment.ofText s ++ " " ++ (if negated then "not between" else "between") ++ " " ++ f ++
        " " ++ "and" ++ " " ++ g := by
  cases negated <;>
    apply Fragment.ext <;> simp [notText, ← String.toList_inj, Fragment.ofText]

theorem exists_spelled (negated : Bool) (f : Fragment) :
    notText negated ++ "exists (" ++ f ++ ")" =
      Fragment.ofText (if negated then "not exists" else "exists") ++ " " ++
        ("(" ++ f ++ ")") := by
  cases negated <;>
    apply Fragment.ext <;> simp [notText, ← String.toList_inj, Fragment.ofText]

theorem null_spelled (negated : Bool) (s : String) :
    s ++ " is " ++ notText negated ++ "null" =
      s ++ " " ++ (if negated then "is not null" else "is null") := by
  cases negated <;> simp [notText, ← String.toList_inj]

end QueryDialect

namespace Compatible

open QueryDialect (within_spelled between_spelled exists_spelled null_spelled)

variable (h : Compatible R)

include h

/-- A test of a text against what stands in parentheses. -/
theorem within (negated : Bool) {s s' : String} {f f' : Fragment} (side : R (.ofText s) (.ofText s'))
    (inner : R ("(" ++ f ++ ")") ("(" ++ f' ++ ")")) :
    R (s ++ " " ++ QueryDialect.notText negated ++ "in (" ++ f ++ ")")
      (s' ++ " " ++ QueryDialect.notText negated ++ "in (" ++ f' ++ ")") := by
  have known : (if negated then "not in" else "in") ∈ fixedTexts := by cases negated <;> decide
  rw [within_spelled, within_spelled]
  exact h.space (h.word side _ known) inner

theorem between (negated : Bool) {s s' : String} {f f' g g' : Fragment}
    (side : R (.ofText s) (.ofText s')) (low : R f f') (high : R g g') :
    R (s ++ " " ++ QueryDialect.notText negated ++ "between " ++ f ++ " and " ++ g)
      (s' ++ " " ++ QueryDialect.notText negated ++ "between " ++ f' ++ " and " ++ g') := by
  have known : (if negated then "not between" else "between") ∈ fixedTexts := by
    cases negated <;> decide
  rw [between_spelled, between_spelled]
  exact h.space (h.word (h.space (h.word side _ known) low) "and" (by decide)) high

theorem exists_text (negated : Bool) {f f' : Fragment}
    (inner : R ("(" ++ f ++ ")") ("(" ++ f' ++ ")")) :
    R (QueryDialect.notText negated ++ "exists (" ++ f ++ ")")
      (QueryDialect.notText negated ++ "exists (" ++ f' ++ ")") := by
  have known : (if negated then "not exists" else "exists") ∈ fixedTexts := by
    cases negated <;> decide
  rw [exists_spelled, exists_spelled]
  exact h.space (h.fixed known) inner

theorem null_text (negated : Bool) {s s' : String} (side : R (.ofText s) (.ofText s')) :
    R (.ofText (s ++ " is " ++ QueryDialect.notText negated ++ "null"))
      (.ofText (s' ++ " is " ++ QueryDialect.notText negated ++ "null")) := by
  have known : (if negated then "is not null" else "is null") ∈ fixedTexts := by
    cases negated <;> decide
  rw [null_spelled, null_spelled]
  exact h.word side _ known

/-- A bound that is left out, or written, on both sides. -/
theorem whenPresent (present : Bool) {s s' : String} (related : R (.ofText s) (.ofText s')) :
    R (.ofText (if present then s else "")) (.ofText (if present then s' else "")) := by
  cases present with
  | false => exact h.empty
  | true => exact related

end Compatible

theorem ClauseSimulation.assembleJoin (h : ClauseSimulation d d' c R) {kind : JoinKind}
    {table table' : Ident} {cs cs' : List Condition} (named : c.Tables table table')
    (each : List.Forall₂ (Alike R) cs cs') :
    R (d.assembleJoin kind table cs) (d'.assembleJoin kind table' cs') := by
  have word : kind.keyword ++ " join" ∈ fixedTexts := by cases kind <;> decide
  have spelled (s : String) : kind.keyword ++ " join " ++ s = kind.keyword ++ " join" ++ " " ++ s := by
    simp [← String.toList_inj]
  have conditions := h.under "on" (by decide) each
  have joined := h.space (h.space (h.fixed word) (h.tableIdent named)) conditions
  have whole := h.trimmedEnd joined
  unfold QueryDialect.assembleJoin
  rw [spelled, spelled]
  exact whole

namespace Simulation

section

variable (h : Simulation d d' c R)

include h

theorem assemble {q q' : Query} {a a' : Option Aggregate} {js js' cs cs' hs hs' : Fragment}
    (parts : c.Parts q q') (counted : Option.Rel c.Aggregates a a') (joins : R js js')
    (conditions : R cs cs') (havings : R hs hs') :
    R (d.assemble q a js cs hs) (d'.assemble q' a' js' cs' hs') := by
  unfold QueryDialect.assemble QueryDialect.boundTexts QueryDialect.bounds
  rw [parts.distinct, parts.limit, parts.offset]
  apply h.concat
  refine .cons (h.aggregateText q.distinct counted) ?_
  refine .cons (h.columnsText q.distinct counted parts.columns) ?_
  refine .cons (h.fromText parts.table) ?_
  refine .cons joins (.cons conditions ?_)
  refine .cons (h.groupsText parts.groups) ?_
  refine .cons havings (.cons (h.ordersText parts.orders) ?_)
  refine .cons (h.whenPresent _ (h.limit _)) (.cons (h.whenPresent _ (h.offset _)) ?_)
  exact .cons (h.lockText parts.lock) .nil

theorem bracketed {f f' : Fragment} (related : R f f') : R (d.bracket f) (d'.bracket f') := by
  unfold QueryDialect.bracket
  rw [h.bracketsUnions]
  split
  · exact h.bracket related
  · exact related

theorem assembleUnion {q q' : Query} {fs fs' : List Fragment} (parts : c.Parts q q')
    (each : List.Forall₂ R fs fs') : R (d.assembleUnion q fs) (d'.assembleUnion q' fs') := by
  unfold QueryDialect.assembleUnion
  rw [parts.unionLimit, parts.unionOffset]
  apply h.concat
  apply List.rel_append each
  refine .cons (h.ordersText parts.unionOrders) ?_
  exact .cons (h.limit _) (.cons (h.offset _) .nil)

theorem aggregateOver {q q' : Query} {f f' : Fragment} (parts : c.Parts q q')
    (related : R f f') : R (d.aggregateOver q f) (d'.aggregateOver q' f') := by
  have spelled (a t : String) (g : Fragment) : a ++ " from (" ++ g ++ ") as " ++ t =
      Fragment.ofText a ++ " " ++ "from" ++ " " ++ ("(" ++ g ++ ")") ++ " " ++ "as" ++ " " ++
        Fragment.ofText t := by
    apply Fragment.ext <;> simp [← String.toList_inj, Fragment.ofText]
  have selected := h.aggregateText q.distinct parts.aggregate
  have source := h.space (h.word selected "from" (by decide)) (h.bracket related)
  unfold QueryDialect.aggregateOver
  rw [spelled, spelled, parts.distinct]
  exact h.space (h.word source "as" (by decide)) h.unionName

theorem assembleSelect {q q' : Query} {js js' cs cs' hs hs' : Fragment}
    {united united' : List Fragment} (parts : c.Parts q q') (joins : R js js')
    (conditions : R cs cs') (havings : R hs hs') (each : List.Forall₂ R united united') :
    R (d.assembleSelect q js cs hs united) (d'.assembleSelect q' js' cs' hs' united') := by
  cases each with
  | nil => exact h.assemble parts parts.aggregate joins conditions havings
  | cons first others =>
    have whole := h.space (h.bracketed (h.assemble parts .none joins conditions havings))
      (h.assembleUnion parts (.cons first others))
    have counted := parts.aggregate
    have total := h.aggregateOver parts whole
    unfold QueryDialect.assembleSelect
    generalize q.aggregate = a at counted total ⊢
    generalize q'.aggregate = a' at counted total ⊢
    cases counted with
    | none => exact whole
    | some _ => exact total

/-- A united query behind its keyword. -/
theorem united (all : Bool) {f f' : Fragment} (related : R f f') :
    R ((if all then "union all " else "union ") ++ d.bracket f)
      ((if all then "union all " else "union ") ++ d'.bracket f') := by
  have known : (if all then "union all" else "union") ∈ boundaryTexts := by cases all <;> decide
  have spelled : (if all then "union all " else "union ") =
      (if all then "union all" else "union") ++ " " := by cases all <;> rfl
  exact h.lead spelled (h.boundary known) (h.bracketed related)

end

mutual
/-- Corresponding queries are written as related selects, or fail alike. -/
theorem select (h : Simulation d d' c R) : ∀ {q q' : Query}, c.Queries q q' →
    Outcome R (d.select q) (d'.select q')
  | { joins := _, .. }, q', .mk parts joins conditions members => by
    rw [d.select_eq, d'.select_eq]
    apply (h.joinFragments joins).bind
    intro js js' joined
    apply (h.conditionList conditions).bind
    intro cs cs' met
    apply (h.havings parts.havings).bind
    intro hs hs' had
    apply (h.memberList members).bind
    intro ms ms' united
    have conditions := h.under "where" (by decide) met
    exact .pure (h.assembleSelect parts (h.joinWith h.space joined) conditions had united)

theorem joinFragments (h : Simulation d d' c R) : ∀ {joins joins' : List Join},
    c.JoinLists joins joins' →
    Outcome (List.Forall₂ R) (d.joinFragments joins) (d'.joinFragments joins')
  | [], _, .nil => .pure .nil
  | { kind := _, .. } :: _, _, .cons named met others => by
    apply (h.conditionList met).bind
    intro cs cs' met
    apply (h.joinFragments others).bind
    intro js js' rest
    exact .pure (.cons (h.assembleJoin named met) rest)

theorem conditionList (h : Simulation d d' c R) : ∀ {clauses clauses' : List Clause},
    c.ClauseLists clauses clauses' →
    Outcome (List.Forall₂ (Alike R)) (d.conditionList clauses) (d'.conditionList clauses')
  | [], _, .nil => .pure .nil
  | { connective := _, .. } :: _, _, .cons first others => by
    apply (h.predicateText first).bind
    intro f f' shown
    apply (h.conditionList others).bind
    intro cs cs' rest
    exact .pure (.cons ⟨rfl, shown⟩ rest)

theorem predicateText (h : Simulation d d' c R) : ∀ {p p' : Predicate}, c.Predicates p p' →
    Outcome R (d.predicateText p) (d'.predicateText p')
  | .compare _ _ _, _, .compare left right => h.comparison (h.columnIdent left) right
  | .compareColumns _ _ _, _, .compareColumns left right => by
    apply (h.operator _).bind
    intro s s' known
    exact .pure (h.space (h.space (h.columnIdent left) known) (h.columnIdent right))
  | .oneOf negated _ _, _, .oneOf left right => by
    cases right with
    | nil =>
      have known : (if negated then "1 = 1" else "0 = 1") ∈ fixedTexts := by
        cases negated <;> decide
      exact .pure (h.fixed known)
    | cons first others =>
      have listed := h.operands (.cons first others)
      exact .pure (h.within negated (h.columnIdent left) (h.bracket listed))
  | .oneOfQuery negated _ _, _, .oneOfQuery left inner => by
    apply (h.select inner).bind
    intro f f' within
    exact .pure (h.within negated (h.columnIdent left) (h.bracket within))
  | .null negated _, _, .null related => .pure (h.null_text negated (h.columnIdent related))
  | .between negated _ _ _, _, .between left lower upper =>
    .pure (h.between negated (h.columnIdent left) (h.operand lower) (h.operand upper))
  | .existsQuery negated _, _, .existsQuery inner => by
    apply (h.select inner).bind
    intro f f' within
    exact .pure (h.exists_text negated (h.bracket within))
  | .nested _, _, .nested inner => by
    apply (h.conditionList inner).bind
    intro cs cs' met
    have same_empty := h.empty_iff (h.join met)
    by_cases shown : (Condition.join cs).sql = ""
    · simp only [if_pos shown, if_pos (same_empty.mp shown)]
      exact .pure (h.join met)
    · simp only [if_neg shown, if_neg (mt same_empty.mpr shown)]
      exact .pure (h.bracket (h.join met))
  | .raw _ _, _, .raw related => .pure (h.clause related)
  | .datePart part _ _ _, _, .datePart left right =>
    h.comparison (h.datePart part (h.columnIdent left)) right
  | .jsonContains negated _ _, _, .jsonContains left right =>
    .pure (h.jsonContains negated right (h.columnIdent left))
  | .jsonLength _ _ _, _, .jsonLength left right =>
    h.comparison (h.jsonLength (h.columnIdent left)) right

theorem memberList (h : Simulation d d' c R) : ∀ {members members' : List Member},
    c.MemberLists members members' →
    Outcome (List.Forall₂ R) (d.memberList members) (d'.memberList members')
  | [], _, .nil => .pure .nil
  | { all, .. } :: _, _, .cons one others => by
    apply (h.select one).bind
    intro f f' inner
    apply (h.memberList others).bind
    intro fs fs' rest
    exact .pure (.cons (h.united all inner) rest)
end

section

variable (h : Simulation d d' c R)

include h

theorem joinList {joins joins' : List Join} (related : c.JoinLists joins joins') :
    Outcome R (d.joinList joins) (d'.joinList joins') := by
  apply (h.joinFragments related).bind
  intro js js' each
  exact .pure (h.joinWith h.space each)

theorem conditions {clauses clauses' : List Clause} (related : c.ClauseLists clauses clauses') :
    Outcome R (d.conditions clauses) (d'.conditions clauses') := by
  apply (h.conditionList related).bind
  intro cs cs' each
  exact .pure (h.under "where" (by decide) each)

theorem selectExists {q q' : Query} (related : c.Queries q q') :
    Outcome R (d.selectExists q) (d'.selectExists q') := by
  have spelled (s : String) (f : Fragment) : "select exists(" ++ f ++ ") as " ++ s =
      Fragment.ofText "select exists" ++ ("(" ++ f ++ ")") ++ " " ++ "as" ++ " " ++
        Fragment.ofText s := by
    apply Fragment.ext <;> simp [← String.toList_inj, Fragment.ofText]
  apply (h.select related).bind
  intro f f' inner
  rw [spelled, spelled]
  have asked := h.call (h.text "select exists" (by decide)) inner
  exact .pure (h.space (h.word asked "as" (by decide)) h.existsName)

end

end Simulation
end SqlCompose
