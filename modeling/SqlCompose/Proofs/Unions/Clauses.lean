import SqlCompose.Proofs.Unions.Legible

/-!
# The clauses of a select avoid the closing words

A clause may hold whole queries, but only in parentheses, which are one word. So joins, conditions and
groups' conditions have no closing word at the top, however many queries are inside.
-/
namespace SqlCompose.QueryDialect.Legible

open Compatible (Alike)

variable {d : QueryDialect} (h : d.Legible)

/-- What is written has the property that goes through the writing. -/
theorem throughout_of {P : String → Prop} {x : Except CompileError Fragment} {f : Fragment}
    (related : Outcome (Throughout P) x x) (written : x = .ok f) : P f.sql := by
  rw [written] at related
  obtain ⟨_, _, _, holds⟩ := related.of_ok
  exact holds

include h

/-- A balanced fragment in parentheses. -/
theorem bracketed {f : Fragment}
    (balanced : Text.Balanced d.quoter.quote f.sql.toList) :
    Throughout (Avoids d.quoter.quote closingWords) ("(" ++ f ++ ")") ("(" ++ f ++ ")") :=
  ⟨rfl, .bracket (List.Subset.refl _) h.quotes.brackets balanced⟩

theorem predicate_avoids {p : Predicate} {f : Fragment} (plain : p.Obeys .none)
    (written : d.predicateText p = .ok f) : Avoids d.quoter.quote closingWords f.sql := by
  have c := h.clauses (List.Subset.refl closingWords)
  unfold predicateText at written
  cases p with
  | compare column operator operand =>
    exact throughout_of (c.comparison (c.column plain.1) plain.2) written
  | compareColumns first operator second =>
    obtain ⟨left, right⟩ := plain
    obtain ⟨word, known, written⟩ := bind_success written
    have operator_known := c.operator operator
    rw [known] at operator_known
    obtain ⟨_, _, related⟩ := operator_known.of_ok
    obtain ⟨rfl, _⟩ := related.text
    cases written
    exact (c.space (c.space (c.column left) related) (c.column right)).2
  | oneOf negated column operands =>
    cases operands with
    | nil =>
      cases written
      refine (h.fixed _ ?_)
      cases negated <;> decide
    | cons operand operands =>
      cases written
      exact (c.within negated (c.column plain.1) (c.bracket (c.operands plain.2))).2
  | oneOfQuery negated column query =>
    obtain ⟨inner, wrote, written⟩ := bind_success written
    have balanced := h.balanced_select plain.2 wrote
    cases written
    exact (c.within negated (c.column plain.1) (h.bracketed balanced)).2
  | null negated column =>
    cases written
    exact (c.null_text negated (c.column plain)).2
  | between negated column low high =>
    obtain ⟨inColumn, inLow, inHigh⟩ := plain
    cases written
    exact (c.between negated (c.column inColumn) (c.operand inLow) (c.operand inHigh)).2
  | existsQuery negated query =>
    obtain ⟨inner, wrote, written⟩ := bind_success written
    have balanced := h.balanced_select plain wrote
    cases written
    exact (c.exists_text negated (h.bracketed balanced)).2
  | nested clauses =>
    obtain ⟨conditions, wrote, written⟩ := bind_success written
    have each := h.queries.conditionList plain
    rw [wrote] at each
    obtain ⟨_, same, related⟩ := each.of_ok
    cases same
    have balanced := (h.queries.join related).2.1
    have whole := Except.ok.inj written
    rw [← whole]
    split
    · next empty =>
      rw [empty]
      exact .empty
    · exact (h.bracketed balanced).2
  | raw sql bindings => exact plain.elim
  | datePart part column operator operand =>
    exact throughout_of (c.comparison (c.datePart part (c.column plain.1)) plain.2) written
  | jsonContains negated column document =>
    cases written
    exact (c.jsonContains negated (.json document) (c.column plain)).2
  | jsonLength column operator operand =>
    exact throughout_of (c.comparison (c.jsonLength (c.column plain.1)) plain.2) written

theorem conditionList_avoids {clauses : List Clause} {conditions : List Condition}
    (plain : ClausesObey .none clauses) (written : d.conditionList clauses = .ok conditions) :
    List.Forall₂ (Alike (Throughout (Avoids d.quoter.quote closingWords))) conditions conditions := by
  induction clauses generalizing conditions with
  | nil =>
    cases written
    exact .nil
  | cons clause clauses ih =>
    obtain ⟨connective, predicate⟩ := clause
    obtain ⟨first, others⟩ := plain
    unfold conditionList at written
    obtain ⟨f, wrote, written⟩ := bind_success written
    obtain ⟨rest, wrote_rest, written⟩ := bind_success written
    cases written
    exact .cons ⟨rfl, rfl, h.predicate_avoids first wrote⟩ (ih others wrote_rest)

theorem joinFragments_avoids {joins : List Join} {fragments : List Fragment}
    (plain : JoinsObey .none joins) (written : d.joinFragments joins = .ok fragments) :
    List.Forall₂ (Throughout (Avoids d.quoter.quote closingWords)) fragments fragments := by
  have c := h.clauses (List.Subset.refl closingWords)
  induction joins generalizing fragments with
  | nil =>
    cases written
    exact .nil
  | cons join joins ih =>
    obtain ⟨kind, table, clauses⟩ := join
    obtain ⟨inTable, inClauses, others⟩ := plain
    unfold joinFragments at written
    obtain ⟨conditions, wrote, written⟩ := bind_success written
    obtain ⟨rest, wrote_rest, written⟩ := bind_success written
    cases written
    exact .cons (c.assembleJoin inTable (h.conditionList_avoids inClauses wrote))
      (ih others wrote_rest)

end SqlCompose.QueryDialect.Legible
