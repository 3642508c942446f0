import SqlCompose.Proofs.Conditions.Reader
import SqlCompose.Proofs.Listing.Items
import SqlCompose.Proofs.Placeholders.Trimming
import SqlCompose.Proofs.Simulation.Select
import SqlCompose.Proofs.Unions.Reading

/-!
# Predicates as tests

A predicate without trusted SQL, other than a group, is written in words that make one condition: the
only connective among them is the `and` of a `between`. So its text reads as one test.
-/
namespace SqlCompose

open Condition (Whole nextWord foldlM_plain foldlM_words inParentheses inParentheses_none)
open Text (Balanced Solitary)

/-- Words with single spaces between them, none of which has a meaning between conditions. -/
def Phrase (quote : Char) (s : String) : Prop :=
  ∃ ws, Tight quote s ws ∧ ∀ w ∈ ws, w ∉ ["and", "or", "between"]

/-- Words that make one condition, which is not in parentheses. -/
def IsTest (quote : Char) (s : String) : Prop :=
  ∃ ws, Tight quote s ws ∧ Whole ws ∧ ∀ w, ws = [w] → inParentheses w = none

/-- A word with something in parentheses right behind it. -/
theorem Text.solitary_call {quote : Char} (ordinary : quote ≠ '(' ∧ quote ≠ ')') {s t : String}
    (name : Solitary quote s.toList) (balanced : Balanced quote t.toList) :
    Solitary quote (s ++ "(" ++ t ++ ")").toList := by
  have chars : (s ++ "(" ++ t ++ ")").toList = s.toList ++ ("(" ++ t ++ ")").toList := by simp
  rw [chars]
  exact name.append (solitary_parentheses ordinary balanced)

theorem IsTest.reads {quote : Char} {s : String} (test : IsTest quote s) :
    Condition.Reads quote s (.test s) := by
  obtain ⟨ws, tight, whole, bare⟩ := test
  refine ⟨ws, tight, whole, fun depth _ => ?_⟩
  rw [tight.joined]
  match ws, tight.some, bare with
  | [w], _, bare => simp [Condition.readCondition, bare w rfl]
  | w :: v :: us, _, _ => rfl

namespace Phrase

variable {quote : Char} {s t : String}

theorem iff_words : Phrase quote s ↔ Balanced quote s.toList ∧ Text.words quote s ≠ [] ∧
    s = Text.joinWith " " (Text.words quote s) ∧
    ∀ w ∈ Text.words quote s, w ∉ ["and", "or", "between"] := by
  constructor
  · rintro ⟨ws, tight, plain⟩
    rw [tight.words]
    exact ⟨tight.balanced, tight.some, tight.joined, plain⟩
  · rintro ⟨balanced, some, joined, plain⟩
    exact ⟨_, ⟨balanced, rfl, some, joined⟩, plain⟩

instance : Decidable (Phrase quote s) := decidable_of_iff _ iff_words.symm

theorem balanced (phrase : Phrase quote s) : Balanced quote s.toList := (iff_words.mp phrase).1

/-- A keyword is made of letters. -/
theorem plain_of_sign {w : String} {c : Char} (inside : c ∈ w.toList)
    (sign : c.isAlphanum = false) : w ∉ ["and", "or", "between"] := by
  have letters : ["and", "or", "between"].all (·.toList.all Char.isAlphanum) = true := by decide
  intro keyword
  rw [List.all_eq_true.mp (List.all_eq_true.mp letters w keyword) c inside] at sign
  cases sign

/-- A word with a character that is in no keyword. -/
theorem of_sign (solitary : Solitary quote s.toList) {c : Char} (inside : c ∈ s.toList)
    (sign : c.isAlphanum = false) : Phrase quote s := by
  refine ⟨[s], .word solitary ?_, ?_⟩
  · rintro rfl
    cases inside
  · intro w member
    obtain rfl := List.mem_singleton.mp member
    exact plain_of_sign inside sign

theorem space (quotes : Quotes quote) (left : Phrase quote s) (right : Phrase quote t) :
    Phrase quote (s ++ " " ++ t) := by
  obtain ⟨ws, tight, plain⟩ := left
  obtain ⟨us, tight', plain'⟩ := right
  refine ⟨ws ++ us, tight.space quotes.shown tight', ?_⟩
  simp only [List.forall_mem_append]
  exact ⟨plain, plain'⟩

theorem bracket (quotes : Quotes quote) (balanced : Balanced quote s.toList) :
    Phrase quote ("(" ++ s ++ ")") :=
  of_sign (Text.solitary_parentheses quotes.brackets balanced) (c := '(') (by simp) (by decide)

theorem call (quotes : Quotes quote) (name : Solitary quote s.toList)
    (balanced : Balanced quote t.toList) : Phrase quote (s ++ "(" ++ t ++ ")") :=
  of_sign (Text.solitary_call quotes.brackets name balanced) (c := '(') (by simp) (by decide)

/-- A call is a test, as it starts with a name. -/
theorem call_test (quotes : Quotes quote) (name : Solitary quote s.toList)
    (balanced : Balanced quote t.toList) {c : Char} (head : s.toList.head? = some c)
    (other : c ≠ '(') : IsTest quote (s ++ "(" ++ t ++ ")") := by
  have one := Text.solitary_call quotes.brackets name balanced
  have shown : s ++ "(" ++ t ++ ")" ≠ "" := by simp
  obtain ⟨_, tight, plain⟩ := call quotes name balanced
  have word : _ = [s ++ "(" ++ t ++ ")"] :=
    tight.words.symm.trans (Text.words_of_solitary one shown)
  subst word
  refine ⟨_, tight, foldlM_plain false plain, fun w single => ?_⟩
  obtain rfl := List.singleton_inj.mp single
  refine inParentheses_none (c := c) ?_ other
  simp [head]

/-- Two phrases are a test. -/
theorem test (quotes : Quotes quote) (left : Phrase quote s) (right : Phrase quote t) :
    IsTest quote (s ++ " " ++ t) := by
  obtain ⟨ws, tight, plain⟩ := left
  obtain ⟨us, tight', plain'⟩ := right
  refine ⟨ws ++ us, tight.space quotes.shown tight', ?_, ?_⟩
  · apply foldlM_plain
    simp only [List.forall_mem_append]
    exact ⟨plain, plain'⟩
  · intro w single
    have lengths := congrArg List.length single
    have first := List.length_pos_of_ne_nil tight.some
    have second := List.length_pos_of_ne_nil tight'.some
    simp only [List.length_append, List.length_singleton] at lengths
    omega

/-- The first `and` behind `between` is part of the test. -/
theorem between (quotes : Quotes quote) (negated : Bool) {low high : String}
    (left : Phrase quote s) (lower : Phrase quote low) (upper : Phrase quote high) :
    IsTest quote (s ++ " " ++ (if negated then "not between" else "between") ++ " " ++ low ++ " " ++
      "and" ++ " " ++ high) := by
  have word {k : String} (letters : k.toList.all Char.isAlphanum = true) (some : k ≠ "") :
      Tight quote k [k] := .letters quotes letters some
  have spelled : "not between" = "not" ++ " " ++ "between" := by decide
  have keyword : ∃ ks, Tight quote (if negated then "not between" else "between") ks ∧
      ks.foldlM nextWord false = .ok true := by
    cases negated with
    | false => exact ⟨["between"], word (by decide) (by decide), rfl⟩
    | true =>
      refine ⟨["not", "between"], ?_, rfl⟩
      show Tight quote "not between" _
      rw [spelled]
      exact (word (by decide) (by decide)).space quotes.shown (word (by decide) (by decide))
  obtain ⟨ks, keyword_tight, waits⟩ := keyword
  obtain ⟨ws, tight, plain⟩ := left
  obtain ⟨us, tight', plain'⟩ := lower
  obtain ⟨vs, tight'', plain''⟩ := upper
  have and_tight : Tight quote "and" ["and"] := word (by decide) (by decide)
  have whole := (((tight.space quotes.shown keyword_tight).space quotes.shown tight').space
    quotes.shown and_tight).space quotes.shown tight''
  refine ⟨_, whole, ?_, ?_⟩
  · have waiting := foldlM_words (foldlM_words (foldlM_plain false plain) waits)
      (foldlM_plain true plain')
    have ended : ["and"].foldlM nextWord true = .ok false := rfl
    exact foldlM_words (foldlM_words waiting ended) (foldlM_plain false plain'')
  · intro w single
    have lengths := congrArg List.length single
    have first := List.length_pos_of_ne_nil tight.some
    simp only [List.length_append, List.length_singleton] at lengths
    omega

end Phrase

namespace QueryDialect

/-- The words that tests are made of whatever the query. -/
def testTexts : List String :=
  ["?", "in", "not in", "is null", "is not null", "exists", "not exists", "0", "1", "= 1"]

/-- An operator that is let through is one of the dialect's, and is written with its question marks
doubled. -/
theorem operator_listed {d : QueryDialect} {given word : String}
    (known : d.operator given = .ok word) : Text.lowercase (Text.trim given) ∈ d.operators ∧
      word = String.ofList
        (Text.replaceChar '?' ['?', '?'] (Text.lowercase (Text.trim given)).toList) := by
  unfold QueryDialect.operator at known
  dsimp only at known
  split at known
  · next listed => exact ⟨listed, (Except.ok.inj known).symm⟩
  · cases known

/-- An operator starts with a character other than a blank, as the dialect's operators do. -/
theorem operator_first {d : QueryDialect} (operators : ∀ o ∈ d.operators, Text.Solid o) {given word : String}
    (known : d.operator given = .ok word) : ∃ c cs, word.toList = c :: cs ∧ Text.isBlank c = false := by
  obtain ⟨listed, spelled⟩ := operator_listed known
  obtain ⟨c, cs, chars, shown⟩ := (operators _ listed).first
  rw [chars] at spelled
  by_cases mark : c = '?'
  · have chars : word.toList = '?' :: '?' :: Text.replaceChar '?' ['?', '?'] cs := by
      simp [spelled, Text.replaceChar, mark]
    exact ⟨'?', _, chars, by decide⟩
  · have chars : word.toList = c :: Text.replaceChar '?' ['?', '?'] cs := by
      simp [spelled, Text.replaceChar, mark]
    exact ⟨c, _, chars, shown⟩

/-- What a dialect writes in a test, apart from its operators, does not part it. -/
structure Worded (d : QueryDialect) : Prop extends Legible d where
  texts : ∀ s ∈ testTexts, Phrase d.quoter.quote s
  datePhrase (part : DatePart) {s : String} : Phrase d.quoter.quote s →
    Phrase d.quoter.quote (d.datePart part s)
  jsonTest (negated : Bool) {s : String} : Phrase d.quoter.quote s →
    IsTest d.quoter.quote ((d.jsonContains negated s).1 ++ "?" ++ (d.jsonContains negated s).2)
  jsonPhrase {s : String} : Phrase d.quoter.quote s → Phrase d.quoter.quote (d.jsonLength s)

/-- What a dialect writes in a test does not part it. -/
structure Phrased (d : QueryDialect) : Prop extends Worded d where
  comparators : ∀ o ∈ d.operators, Phrase d.quoter.quote
    (String.ofList (Text.replaceChar '?' ['?', '?'] o.toList))

namespace Worded

variable {d : QueryDialect} (h : d.Worded)

include h

theorem column {i : Ident} (plain : i.Obeys .none) : Phrase d.quoter.quote (d.quoter.column i) := by
  obtain ⟨ws, tight, names⟩ := h.column_tight plain
  refine ⟨ws, tight, fun w member => ?_⟩
  rcases names w member with rfl | ⟨c, inside, sign⟩
  · decide
  · exact Phrase.plain_of_sign inside sign

theorem value (v : Value) : Phrase d.quoter.quote (d.value v).sql := by
  rw [show (d.value v).sql = "?" by rw [QueryDialect.value, h.positional]; rfl]
  exact h.texts _ (by decide)

theorem operand {o : Operand} (plain : o.Obeys .none) :
    Phrase d.quoter.quote (d.operand o).sql := by
  cases o with
  | raw sql => exact plain.elim
  | value v => exact h.value v

theorem comparison {left given : String} {o : Operand} {f : Fragment}
    (phrase : Phrase d.quoter.quote left) (plain : o.Obeys .none)
    (comparator : ∀ word, d.operator given = .ok word → Phrase d.quoter.quote word)
    (written : d.comparison left given o = .ok f) : IsTest d.quoter.quote f.sql := by
  obtain ⟨word, known, written⟩ := bind_success written
  cases written
  exact (phrase.space h.quotes (comparator word known)).test h.quotes (h.operand plain)

/-- A test of a column against what stands in parentheses. -/
theorem within (negated : Bool) {s : String} {f : Fragment} (left : Phrase d.quoter.quote s)
    (balanced : Balanced d.quoter.quote f.sql.toList) :
    IsTest d.quoter.quote (s ++ " " ++ notText negated ++ "in (" ++ f ++ ")").sql := by
  have word : Phrase d.quoter.quote (if negated then "not in" else "in") := by
    cases negated <;> exact h.texts _ (by decide)
  rw [within_spelled]
  exact (left.space h.quotes word).test h.quotes (.bracket h.quotes balanced)

/-- A predicate other than a group is a test, if its operator does not part it. -/
theorem predicate {p : Predicate} {f : Fragment} (plain : p.Obeys .none)
    (single : ∀ clauses, p ≠ .nested clauses)
    (comparators : ∀ given ∈ p.operators, ∀ word, d.operator given = .ok word →
      Phrase d.quoter.quote word)
    (written : d.predicateText p = .ok f) : IsTest d.quoter.quote f.sql := by
  unfold predicateText at written
  cases p with
  | compare column operator operand =>
    exact h.comparison (h.column plain.1) plain.2 (comparators operator (.head _)) written
  | compareColumns first operator second =>
    obtain ⟨word, known, written⟩ := bind_success written
    cases written
    have comparator := comparators operator (.head _) word known
    exact ((h.column plain.1).space h.quotes comparator).test h.quotes (h.column plain.2)
  | oneOf negated column operands =>
    cases operands with
    | nil =>
      cases written
      have equal : Phrase d.quoter.quote "= 1" := h.texts _ (by decide)
      have spelled : (if negated then "1 = 1" else "0 = 1") =
          (if negated then "1" else "0") ++ " " ++ "= 1" := by
        cases negated <;> decide
      have digit : Phrase d.quoter.quote (if negated then "1" else "0") := by
        cases negated <;> exact h.texts _ (by decide)
      rw [Fragment.sql_ofText, spelled]
      exact digit.test h.quotes equal
    | cons operand operands =>
      cases written
      exact h.within negated (h.column plain.1) (h.queries.operands plain.2).2.1
  | oneOfQuery negated column query =>
    obtain ⟨inner, wrote, written⟩ := bind_success written
    cases written
    exact h.within negated (h.column plain.1) (h.balanced_select plain.2 wrote)
  | null negated column =>
    cases written
    have word : Phrase d.quoter.quote (if negated then "is not null" else "is null") := by
      cases negated <;> exact h.texts _ (by decide)
    rw [Fragment.sql_ofText, null_spelled]
    exact (h.column plain).test h.quotes word
  | between negated column low high =>
    obtain ⟨inColumn, inLow, inHigh⟩ := plain
    cases written
    rw [between_spelled]
    exact (h.column inColumn).between h.quotes negated (h.operand inLow) (h.operand inHigh)
  | existsQuery negated query =>
    obtain ⟨inner, wrote, written⟩ := bind_success written
    cases written
    have word : Phrase d.quoter.quote (if negated then "not exists" else "exists") := by
      cases negated <;> exact h.texts _ (by decide)
    rw [exists_spelled]
    exact word.test h.quotes (.bracket h.quotes (h.balanced_select plain wrote))
  | nested clauses => exact absurd rfl (single clauses)
  | raw sql bindings => exact plain.elim
  | datePart part column operator operand =>
    exact h.comparison (h.datePhrase part (h.column plain.1)) plain.2
      (comparators operator (.head _)) written
  | jsonContains negated column document =>
    cases written
    have test := h.jsonTest negated (h.column plain)
    have mark : (d.value (.json document)).sql = "?" := by
      rw [QueryDialect.value, h.positional]
      rfl
    rw [Fragment.sql_append_text, Fragment.sql_text_append, mark]
    exact test
  | jsonLength column operator operand =>
    exact h.comparison (h.jsonPhrase (h.column plain.1)) plain.2
      (comparators operator (.head _)) written

end Worded

namespace Phrased

variable {d : QueryDialect} (h : d.Phrased)

include h

theorem operator {given word : String} (known : d.operator given = .ok word) :
    Phrase d.quoter.quote word := by
  obtain ⟨listed, rfl⟩ := operator_listed known
  exact h.comparators _ listed

/-- A predicate other than a group is a test. -/
theorem predicate {p : Predicate} {f : Fragment} (plain : p.Obeys .none)
    (single : ∀ clauses, p ≠ .nested clauses) (written : d.predicateText p = .ok f) :
    IsTest d.quoter.quote f.sql :=
  h.toWorded.predicate plain single (fun _ _ _ known => h.operator known) written

end Phrased
end QueryDialect
end SqlCompose
