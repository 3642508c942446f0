import SqlCompose.Proofs.Conditions.Phrases

/-!
# Conditions keep their logic

The text of a list of clauses without trusted SQL reads as the clauses: the same tests in the same
order, with the same groups and connectives, so that it holds whenever the clauses do
(`conditions_read_back`). The induction is on clauses and predicates together, as a group is a list of
clauses.
-/
namespace SqlCompose.QueryDialect

open Condition (Chain Spells RowSpells)
open Text (Balanced Solitary)

/-- The text of a predicate, if it can be written. -/
def testText (d : QueryDialect) (p : Predicate) : String :=
  match d.predicateText p with
  | .ok f => f.sql
  | .error _ => ""

namespace Phrased

variable {d : QueryDialect}

theorem test_spells (h : d.Phrased) {p : Predicate} {f : Fragment} (plain : p.Obeys .none)
    (single : ∀ clauses, p ≠ .nested clauses) (written : d.predicateText p = .ok f) :
    Spells d.quoter.quote f.sql (p.tree.map (Condition.Tree.map d.testText)) := by
  have test : p.tree = some (.test p) := by
    cases p with
    | nested clauses => exact absurd rfl (single clauses)
    | _ => rfl
  have text : d.testText p = f.sql := by rw [testText, written]
  rw [test, Option.map_some, Condition.Tree.map, text]
  exact .condition (h.predicate plain single written).reads

mutual
theorem predicate_spells (h : d.Phrased) : ∀ {p : Predicate} {f : Fragment}, p.Obeys .none →
    d.predicateText p = .ok f →
      Spells d.quoter.quote f.sql (p.tree.map (Condition.Tree.map d.testText))
  | .nested clauses, f, plain, written => by
    unfold predicateText at written
    obtain ⟨conditions, wrote, written⟩ := bind_success written
    have row := Condition.join_spells h.quotes d.testText (h.clauses_read plain wrote)
    have tree : (Predicate.nested clauses).tree.map (Condition.Tree.map d.testText) =
        ((clauseChain clauses).map (Chain.map d.testText)).map .group := by
      simp only [Predicate.tree, clauseChain, Option.map_map]
      rfl
    rw [tree, ← Except.ok.inj written]
    exact row.group h.quotes
  | .compare .., _, plain, written | .compareColumns .., _, plain, written
  | .oneOf .., _, plain, written | .oneOfQuery .., _, plain, written
  | .null .., _, plain, written | .between .., _, plain, written
  | .existsQuery .., _, plain, written | .raw .., _, plain, written
  | .datePart .., _, plain, written | .jsonContains .., _, plain, written
  | .jsonLength .., _, plain, written => h.test_spells plain nofun written

/-- The conditions with text are those of the clauses that come to something. -/
theorem clauses_read (h : d.Phrased) : ∀ {clauses : List Clause} {conditions : List Condition},
    ClausesObey .none clauses → d.conditionList clauses = .ok conditions →
    List.Forall₂ (fun c t => c.connective = t.1 ∧
        Condition.Reads d.quoter.quote c.fragment.sql (t.2.map d.testText))
      (Condition.visible conditions) (clauseTrees clauses)
  | [], conditions, _, written => by
    cases written
    exact .nil
  | { connective, predicate } :: clauses, conditions, ⟨first, others⟩, written => by
    unfold conditionList at written
    obtain ⟨f, wrote, written⟩ := bind_success written
    obtain ⟨rest, wrote_rest, written⟩ := bind_success written
    cases written
    have spelled := h.predicate_spells first wrote
    have later := h.clauses_read others wrote_rest
    generalize text : f.sql = s at spelled
    unfold clauseTrees
    cases tree : predicate.tree with
    | none =>
      rw [tree] at spelled
      cases spelled
      rw [Condition.visible, List.filter_cons_of_neg (by simpa using text)]
      exact later
    | some condition =>
      rw [tree] at spelled
      cases spelled with
      | condition reads =>
        have some : f.sql ≠ "" := text ▸ reads.ne_empty
        rw [Condition.visible, List.filter_cons_of_pos (by simpa using some)]
        exact .cons ⟨rfl, text ▸ reads⟩ later
end

/-- The text of a list of clauses is empty if they come to nothing, and else reads as their row. -/
theorem clauses_spell (h : d.Phrased) {clauses : List Clause} {conditions : List Condition}
    (plain : ClausesObey .none clauses) (written : d.conditionList clauses = .ok conditions) :
    RowSpells d.quoter.quote (Condition.join conditions).sql
      ((clauseChain clauses).map (Chain.map d.testText)) :=
  Condition.join_spells h.quotes d.testText (h.clauses_read plain written)

end Phrased

/-! ## MySQL -/

theorem MySql.jsonContains_test (negated : Bool) {s : String}
    (balanced : Balanced '\x60' s.toList) :
    IsTest '\x60'
      ((MySql.jsonContains negated s).1 ++ "?" ++ (MySql.jsonContains negated s).2) := by
  have name : Solitary '\x60' "json_contains".toList := by decide
  have mark : Balanced '\x60' ", ?".toList := by decide
  have inner : Balanced '\x60' (s ++ ", ?").toList := by
    rw [String.toList_append]
    exact balanced.append mark
  have spelled (lead : String) : lead ++ "json_contains(" ++ s ++ ", " ++ "?" ++ ")" =
      lead ++ ("json_contains" ++ "(" ++ (s ++ ", ?") ++ ")") := by
    simp [← String.toList_inj]
  show IsTest '\x60'
    ((if negated then "not " else "") ++ "json_contains(" ++ s ++ ", " ++ "?" ++ ")")
  rw [spelled]
  cases negated with
  | false => simpa using Phrase.call_test mySql_quotes name inner (c := 'j') (by decide) (by decide)
  | true =>
    have not : Phrase '\x60' "not" := by decide
    have both := not.test mySql_quotes (.call mySql_quotes name inner)
    simpa using both

theorem mySql_phrased (tablePrefix : String) : (mySql tablePrefix).Phrased where
  toLegible := mySql_legible tablePrefix
  texts := (by decide : ∀ s ∈ testTexts, Phrase '\x60' s)
  comparators := (by decide : ∀ o ∈ MySql.operators, Phrase '\x60'
    (String.ofList (Text.replaceChar '?' ['?', '?'] o.toList)))
  datePhrase part s phrase := by
    have name : Solitary '\x60' part.keyword.toList := by cases part <;> decide
    exact .call mySql_quotes name phrase.balanced
  jsonTest negated s phrase := MySql.jsonContains_test negated phrase.balanced
  jsonPhrase phrase := by
    have name : Solitary '\x60' "json_length".toList := by decide
    exact .call mySql_quotes name phrase.balanced

/-- The text of a list of clauses without trusted SQL is empty just when the clauses come to nothing.
Else it reads as their row, and it holds when they do, whichever of the tests hold. -/
theorem conditions_read_back (tablePrefix : String) {clauses : List Clause}
    {conditions : List Condition} (plain : ClausesObey .none clauses)
    (written : (mySql tablePrefix).conditionList clauses = .ok conditions) :
    ((Condition.join conditions).sql = "" ↔ clauseChain clauses = none) ∧
    ∀ chain, clauseChain clauses = some chain →
      ∃ read, Condition.read '\x60' (Condition.join conditions).sql = some read ∧
        read = chain.map (mySql tablePrefix).testText ∧
        ∀ truth, read.holds truth = chain.holds truth := by
  have spelled := (mySql_phrased tablePrefix).clauses_spell plain written
  generalize (Condition.join conditions).sql = s at spelled ⊢
  cases found : clauseChain clauses with
  | none =>
    rw [found] at spelled
    cases spelled
    simp
  | some chain =>
    rw [found] at spelled
    cases spelled with
    | row some _ reads =>
      refine ⟨by simpa using some, ?_⟩
      intro other same
      cases same
      exact ⟨_, reads _ (Nat.lt_succ_self _), rfl, chain.holds_map _⟩

/-- Groups that come to nothing, names like conditions, and a test with an `and` of its own. -/
def mixedClauses : List Clause :=
  [⟨.or, .nested [⟨.and, .nested []⟩]⟩,
    ⟨.or, .compare (.name "a and (b") "=" (.value (.int 1))⟩,
    ⟨.and, .between false (.name "c") (.value (.int 1)) (.value (.int 2))⟩,
    ⟨.or, .nested [⟨.or, .null false (.name "d")⟩, ⟨.and, .nested []⟩,
      ⟨.or, .oneOf true (.name "e") []⟩]⟩]

theorem conditions_read_back_mixedClauses : ∃ conditions,
    (mySql "").conditionList mixedClauses = .ok conditions ∧
    Condition.read '\x60' (Condition.join conditions).sql =
      some (.link (.test "\x60a and (b\x60 = ?") .and
        (.link (.test "\x60c\x60 between ? and ?") .or
          (.last (.group (.link (.test "\x60d\x60 is null") .or (.last (.test "1 = 1"))))))) := by
  have plain : ClausesObey .none mixedClauses := by
    simp [mixedClauses, ClausesObey, Predicate.Obeys, Ident.Obeys, Operand.Obeys]
  have succeeds : ((mySql "").conditionList mixedClauses).toOption.map (fun _ => ()) = some () := by
    decide
  obtain ⟨conditions, written, _⟩ := success_of_toOption succeeds
  obtain ⟨read, reads, same, _⟩ := (conditions_read_back "" plain written).2 _ rfl
  refine ⟨conditions, written, ?_⟩
  rw [reads, same]
  decide

end SqlCompose.QueryDialect
