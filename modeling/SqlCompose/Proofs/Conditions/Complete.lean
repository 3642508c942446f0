import SqlCompose.Proofs.Conditions.Phrases

/-!
# Complete predicates

A predicate is complete if the connective behind it ends it, wherever it stands in a list of conditions
and whatever follows. In PostgreSQL every predicate without trusted SQL is complete but a comparison with
`between`: that is let through as an operator, though its one operand is only the lower bound, and the
`and` behind it is read as its own (`predicate_complete_iff`).
-/
namespace SqlCompose

open Text (Balanced Solitary)

namespace Condition

/-- Whether the reader still waits for the `and` of a `between` behind the words. -/
def waits : Bool → List String → Bool
  | between, [] => between
  | between, word :: words =>
    match nextWord between word with
    | .ok next => waits next words
    | .error _ => waits false words

/-- What is read of a row, then a connective, and what is read of another row. -/
def linked (row : List String × List (Connective × List String)) (connective : Connective)
    (rest : List String × List (Connective × List String)) :
    List String × List (Connective × List String) :=
  (row.1, row.2 ++ (connective, rest.1) :: rest.2)

theorem waits_append (between : Bool) (words more : List String) :
    waits between (words ++ more) = waits (waits between words) more := by
  induction words generalizing between with
  | nil => rfl
  | cons word words ih =>
    cases step : nextWord between word <;> simp [waits, step, ih]

/-- A connective is behind `between` at most once. -/
theorem waits_keyword (between : Bool) (connective : Connective) (words : List String) :
    waits between (connective.keyword :: words) = waits false words := by
  cases connective <;> cases between <;> rfl

theorem waits_of_foldlM {between after : Bool} {words : List String}
    (inside : words.foldlM nextWord between = .ok after) : waits between words = after := by
  induction words generalizing between with
  | nil => exact Except.ok.inj inside
  | cons word words ih =>
    rw [List.foldlM_cons] at inside
    cases step : nextWord between word with
    | error connective =>
      rw [step] at inside
      cases inside
    | ok next =>
      rw [step] at inside
      simpa [waits, step] using ih inside

/-- Where the reader does not wait, a connective parts what is before it from what follows. -/
theorem cut_linked {between : Bool} {words : List String} (settled : waits between words = false)
    (connective : Connective) (rest : List String) :
    cut between (words ++ connective.keyword :: rest) =
      linked (cut between words) connective (cut false rest) := by
  induction words generalizing between with
  | nil =>
    obtain rfl : between = false := settled
    cases connective <;> rfl
  | cons word words ih =>
    cases step : nextWord between word with
    | error ended =>
      simp only [waits, step] at settled
      simp [cut, step, ih settled, linked]
    | ok next =>
      simp only [waits, step] at settled
      simp [cut, step, ih settled, linked]

/-- The words of the first condition of a row, and those of the others with their connectives. -/
def readRowWords (quote : Char) (row : List (Connective × String)) :
    List String × List (Connective × List String) :=
  cut false (Text.words quote (joinConditions row))

/-- Wherever the text stands in a row of conditions, the connective behind it is read as the one between
it and the next: the row up to the text reads as it does without the rest, and so does the rest. -/
def Complete (quote : Char) (s : String) : Prop :=
  ∀ (before : List (Connective × String)) (given connective : Connective) (next : String)
    (after : List (Connective × String)), (∀ c ∈ before, Balanced quote c.2.toList) →
    readRowWords quote (before ++ (given, s) :: (connective, next) :: after) =
      linked (readRowWords quote (before ++ [(given, s)])) connective
        (readRowWords quote ((connective, next) :: after))

variable {quote : Char}

theorem balanced_joinConditions (quotes : Quotes quote) {row : List (Connective × String)}
    (balanced : ∀ c ∈ row, Balanced quote c.2.toList) :
    Balanced quote (joinConditions row).toList := by
  induction row with
  | nil => rfl
  | cons first row ih =>
    have own := balanced first (by simp)
    have rest := ih fun c member => balanced c (by simp [member])
    cases row with
    | nil => simpa [joinConditions, followingConditions] using own
    | cons second row =>
      rw [joinConditions_cons_cons]
      exact balanced_link quotes own second.1 rest

/-- A balanced text is complete if the reader does not wait behind its words. -/
theorem complete_of_settled (quotes : Quotes quote) {s : String} (balanced : Balanced quote s.toList)
    (settled : waits false (Text.words quote s) = false) : Complete quote s := by
  intro before given connective next after others
  have whole : Balanced quote (joinConditions (before ++ [(given, s)])).toList := by
    apply balanced_joinConditions quotes
    intro c member
    rcases List.mem_append.mp member with early | last
    · exact others c early
    · obtain rfl := List.mem_singleton.mp last
      exact balanced
  -- the reader starts afresh behind the connective in front of the text, even one it waited for
  have done : waits false (Text.words quote (joinConditions (before ++ [(given, s)]))) = false := by
    by_cases first : before = []
    · simpa [first, joinConditions, followingConditions] using settled
    · have front := balanced_joinConditions quotes others
      have alone : joinConditions [(given, s)] = s := by
        simp [joinConditions, followingConditions]
      rw [joinConditions_append first, alone, words_link quotes front, waits_append, waits_keyword]
      exact settled
  have row : before ++ (given, s) :: (connective, next) :: after =
      (before ++ [(given, s)]) ++ (connective, next) :: after := by
    simp
  rw [readRowWords, row, joinConditions_append (by simp), words_link quotes whole, cut_linked done]
  rfl

/-- Behind words that wait for it, the `and` and the next condition are part of the text's own. -/
theorem cut_waiting (quotes : Quotes quote) {s : String} (balanced : Balanced quote s.toList)
    (waiting : (Text.words quote s).foldlM nextWord false = .ok true) (next : String) :
    cut false (Text.words quote (s ++ " and " ++ next)) =
      (Text.words quote s ++ "and" :: (cut false (Text.words quote next)).1,
        (cut false (Text.words quote next)).2) := by
  have spelled : s ++ " and " ++ next = s ++ " " ++ Connective.and.keyword ++ " " ++ next := by
    simp [← String.toList_inj, Connective.keyword]
  have ended : ["and"].foldlM nextWord true = .ok false := rfl
  have taken := cut_append (foldlM_words waiting ended) (Text.words quote next)
  rw [spelled, words_link quotes balanced]
  simpa [Connective.keyword] using taken

/-- A text that waits for its `and` is not complete. -/
theorem not_complete_of_waiting (quotes : Quotes quote) {s : String}
    (balanced : Balanced quote s.toList)
    (waiting : (Text.words quote s).foldlM nextWord false = .ok true) : ¬ Complete quote s := by
  intro complete
  have split := complete [] .and .and "" [] (by simp)
  have spelled : joinConditions [(.and, s), (.and, "")] = s ++ " and " ++ "" := by
    simp [joinConditions, followingConditions, Connective.keyword]
  have taken := cut_waiting quotes balanced waiting ""
  simp only [List.nil_append, readRowWords, spelled, taken] at split
  have parts := congrArg (fun parts => parts.2.length) split
  simp [linked, cut] at parts

end Condition

/-! ## Predicates of PostgreSQL -/

/-- The predicate compares with the operator `between`, in any mix of cases and with blanks around
it. -/
def Predicate.ComparesBetween (p : Predicate) : Prop :=
  ∃ given ∈ p.operators, Text.lowercase (Text.trim given) = "between"

namespace QueryDialect

open Condition (Complete nextWord waits foldlM_plain foldlM_words)

/-- A column as a document is a word. -/
theorem Postgres.document_phrase {s : String} (phrase : Phrase '"' s) :
    Phrase '"' ("(" ++ s ++ ")" ++ "::jsonb") := by
  have type : Solitary '"' "::jsonb".toList := by decide
  have bracketed := Text.solitary_parentheses postgres_quotes.brackets phrase.balanced
  refine .of_sign (c := '(') ?_ (by simp) (by decide)
  rw [String.toList_append]
  exact bracketed.append type

theorem Postgres.datePart_phrase (part : DatePart) {s : String} (phrase : Phrase '"' s) :
    Phrase '"' (Postgres.datePart part s) := by
  have cast (type : String) (one : Solitary '"' ("::" ++ type).toList) :
      Phrase '"' (s ++ "::" ++ type) := by
    obtain ⟨ws, tight, plain⟩ := phrase
    obtain ⟨front, last, rfl, whole⟩ := tight.behind one
    rw [String.append_assoc]
    refine ⟨_, whole, ?_⟩
    intro w member
    rcases List.mem_append.mp member with early | late
    · exact plain w (List.mem_append_left _ early)
    · obtain rfl := List.mem_singleton.mp late
      exact Phrase.plain_of_sign (c := ':') (by simp) (by decide)
  have extracted : Phrase '"' ("extract(" ++ part.keyword ++ " from " ++ s ++ ")") := by
    have word : Balanced '"' part.keyword.toList := by cases part <;> decide
    have from_word : Balanced '"' "from".toList := by decide
    have name : Solitary '"' "extract".toList := by decide
    have inner := Text.balanced_space postgres_quotes.shown
      (Text.balanced_space postgres_quotes.shown word from_word) phrase.balanced
    have spelled : "extract(" ++ part.keyword ++ " from " ++ s ++ ")" =
        "extract" ++ "(" ++ (part.keyword ++ " " ++ "from" ++ " " ++ s) ++ ")" := by
      simp [← String.toList_inj]
    rw [spelled]
    exact .call postgres_quotes name inner
  cases part with
  | date => exact cast "date" (by decide)
  | time => exact cast "time" (by decide)
  | day => exact extracted
  | month => exact extracted
  | year => exact extracted

theorem Postgres.jsonContains_test (negated : Bool) {s : String} (phrase : Phrase '"' s) :
    IsTest '"'
      ((Postgres.jsonContains negated s).1 ++ "?" ++ (Postgres.jsonContains negated s).2) := by
  have document := Postgres.document_phrase phrase
  have contains : Phrase '"' "@>" := by decide
  have mark : Phrase '"' "?" := by decide
  have not : Phrase '"' "not" := by decide
  have spelled (lead : String) : lead ++ "(" ++ s ++ ")::jsonb @> " ++ "?" ++ "" =
      lead ++ ("(" ++ s ++ ")" ++ "::jsonb" ++ " " ++ "@>" ++ " " ++ "?") := by
    simp [← String.toList_inj]
  show IsTest '"'
    ((if negated then "not " else "") ++ "(" ++ s ++ ")::jsonb @> " ++ "?" ++ "")
  rw [spelled]
  cases negated with
  | false =>
    have test := (document.space postgres_quotes contains).test postgres_quotes mark
    simpa using test
  | true =>
    have comparison := (document.space postgres_quotes contains).space postgres_quotes mark
    have test := not.test postgres_quotes comparison
    have front : (if true then "not " else "") = "not" ++ " " := by simp
    rw [front]
    exact test

theorem postgres_worded (tablePrefix : String) : (postgres tablePrefix).Worded where
  toLegible := postgres_legible tablePrefix
  texts := (by decide : ∀ s ∈ testTexts, Phrase '"' s)
  datePhrase part _ phrase := Postgres.datePart_phrase part phrase
  jsonTest negated _ phrase := Postgres.jsonContains_test negated phrase
  jsonPhrase {s} phrase := by
    have name : Solitary '"' "jsonb_array_length".toList := by decide
    have spelled : "jsonb_array_length((" ++ s ++ ")::jsonb)" =
        "jsonb_array_length" ++ "(" ++ ("(" ++ s ++ ")" ++ "::jsonb") ++ ")" := by
      simp [← String.toList_inj]
    show Phrase '"' ("jsonb_array_length((" ++ s ++ ")::jsonb)")
    rw [spelled]
    exact .call postgres_quotes name (Postgres.document_phrase phrase).balanced

theorem Postgres.operators_phrase : ∀ o ∈ Postgres.operators, o ≠ "between" →
    Phrase '"' (String.ofList (Text.replaceChar '?' ['?', '?'] o.toList)) := by
  decide

variable {tablePrefix : String} {p : Predicate} {f : Fragment}

/-- The reader does not wait behind a predicate that does not compare with `between`. -/
theorem predicate_settled (plain : p.Obeys .none)
    (written : (postgres tablePrefix).predicateText p = .ok f) (some : f.sql ≠ "")
    (other : ¬ p.ComparesBetween) :
    Balanced '"' f.sql.toList ∧ waits false (Text.words '"' f.sql) = false := by
  have worded := postgres_worded tablePrefix
  have comparators : ∀ given ∈ p.operators, ∀ word,
      (postgres tablePrefix).operator given = .ok word → Phrase '"' word := by
    intro given member word known
    obtain ⟨listed, rfl⟩ := operator_listed known
    exact Postgres.operators_phrase _ listed fun between => other ⟨given, member, between⟩
  by_cases group : ∃ clauses, p = .nested clauses
  · obtain ⟨clauses, rfl⟩ := group
    unfold predicateText at written
    obtain ⟨conditions, wrote, written⟩ := bind_success written
    have each := worded.queries.conditionList plain
    rw [wrote] at each
    obtain ⟨_, same, related⟩ := each.of_ok
    cases same
    have inner : Balanced '"' (Condition.join conditions).sql.toList :=
      (worded.queries.join related).2.1
    have text := Except.ok.inj written
    by_cases empty : (Condition.join conditions).sql = ""
    · rw [if_pos empty] at text
      exact absurd (text ▸ empty) some
    · rw [if_neg empty] at text
      obtain ⟨ws, tight, words⟩ := Phrase.bracket postgres_quotes inner
      rw [← text]
      show Balanced '"' ("(" ++ (Condition.join conditions).sql ++ ")").toList ∧
        waits false (Text.words '"' ("(" ++ (Condition.join conditions).sql ++ ")")) = false
      rw [tight.words]
      exact ⟨tight.balanced, Condition.waits_of_foldlM (foldlM_plain false words)⟩
  · obtain ⟨ws, tight, whole, -⟩ :=
      worded.predicate plain (fun clauses same => group ⟨clauses, same⟩) comparators written
    have words : Text.words '"' f.sql = ws := tight.words
    rw [words]
    exact ⟨tight.balanced, Condition.waits_of_foldlM whole⟩

/-- A comparison with `between` has one phrase before the operator and one behind it. -/
theorem between_spelled_of_compares (plain : p.Obeys .none)
    (written : (postgres tablePrefix).predicateText p = .ok f) (between : p.ComparesBetween) :
    ∃ left right, Phrase '"' left ∧ Phrase '"' right ∧
      f.sql = left ++ " " ++ "between" ++ " " ++ right := by
  have worded := postgres_worded tablePrefix
  obtain ⟨given, member, spelled⟩ := between
  have unchanged : String.ofList (Text.replaceChar '?' ['?', '?'] "between".toList) = "between" := by
    decide
  have word {w : String} (known : (postgres tablePrefix).operator given = .ok w) : w = "between" := by
    obtain ⟨-, rfl⟩ := operator_listed known
    rw [spelled, unchanged]
  have comparison {left : String} {o : Operand} (phrase : Phrase '"' left) (value : o.Obeys .none)
      (compared : (postgres tablePrefix).comparison left given o = .ok f) :
      ∃ left right, Phrase '"' left ∧ Phrase '"' right ∧
        f.sql = left ++ " " ++ "between" ++ " " ++ right := by
    obtain ⟨w, known, rest⟩ := bind_success compared
    cases rest
    refine ⟨left, _, phrase, worded.operand value, ?_⟩
    rw [word known]
    rfl
  unfold predicateText at written
  cases p with
  | compare column operator operand =>
    obtain rfl := List.mem_singleton.mp member
    exact comparison (worded.column plain.1) plain.2 written
  | compareColumns first operator second =>
    obtain rfl := List.mem_singleton.mp member
    obtain ⟨w, known, rest⟩ := bind_success written
    cases rest
    refine ⟨_, _, worded.column plain.1, worded.column plain.2, ?_⟩
    rw [word known]
    rfl
  | datePart part column operator operand =>
    obtain rfl := List.mem_singleton.mp member
    exact comparison (worded.datePhrase part (worded.column plain.1)) plain.2 written
  | jsonLength column operator operand =>
    obtain rfl := List.mem_singleton.mp member
    exact comparison (worded.jsonPhrase (worded.column plain.1)) plain.2 written
  | oneOf | oneOfQuery | null | between | existsQuery | nested | raw | jsonContains => cases member

/-- The reader waits behind a comparison with `between`. -/
theorem predicate_waiting (plain : p.Obeys .none)
    (written : (postgres tablePrefix).predicateText p = .ok f) (between : p.ComparesBetween) :
    Balanced '"' f.sql.toList ∧ (Text.words '"' f.sql).foldlM nextWord false = .ok true := by
  obtain ⟨left, right, ⟨ws, tight, front⟩, ⟨us, tight', back⟩, text⟩ :=
    between_spelled_of_compares plain written between
  have keyword : Tight '"' "between" ["between"] :=
    .letters postgres_quotes (by decide) (by decide)
  have whole := (tight.space postgres_quotes.shown keyword).space postgres_quotes.shown tight'
  have waiting : ["between"].foldlM nextWord false = .ok true := rfl
  rw [text, whole.words]
  exact ⟨whole.balanced,
    foldlM_words (foldlM_words (foldlM_plain false front) waiting) (foldlM_plain true back)⟩

/-- A predicate without trusted SQL is complete just when it does not compare with `between`; if it
does, the next `and` and the condition behind it are read as part of it. -/
theorem predicate_complete_iff (tablePrefix : String) {p : Predicate} {f : Fragment}
    (plain : p.Obeys .none) (written : (postgres tablePrefix).predicateText p = .ok f)
    (some : f.sql ≠ "") :
    (Complete '"' f.sql ↔ ¬ p.ComparesBetween) ∧
    (p.ComparesBetween → ∀ next, Condition.cut false (Text.words '"' (f.sql ++ " and " ++ next)) =
      (Text.words '"' f.sql ++ "and" :: (Condition.cut false (Text.words '"' next)).1,
        (Condition.cut false (Text.words '"' next)).2)) := by
  refine ⟨⟨fun complete between => ?_, fun other => ?_⟩, fun between next => ?_⟩
  · obtain ⟨balanced, waiting⟩ := predicate_waiting plain written between
    exact Condition.not_complete_of_waiting postgres_quotes balanced waiting complete
  · obtain ⟨balanced, settled⟩ := predicate_settled plain written some other
    exact Condition.complete_of_settled postgres_quotes balanced settled
  · obtain ⟨balanced, waiting⟩ := predicate_waiting plain written between
    exact Condition.cut_waiting postgres_quotes balanced waiting next

/-- The comparison of one clause takes the next clause for its upper bound. -/
theorem predicate_complete_iff_lowerBound : ∃ f,
    (postgres "").predicateText (.compare (.name "age") " BETWEEN" (.value (.int 5))) = .ok f ∧
    f.sql = "\"age\" between ?" ∧ ¬ Complete '"' f.sql ∧
    Condition.cut false (Text.words '"' (f.sql ++ " and " ++ "\"name\" = ?")) =
      (["\"age\"", "between", "?", "and", "\"name\"", "=", "?"], []) := by
  have succeeds : ((postgres "").predicateText
      (.compare (.name "age") " BETWEEN" (.value (.int 5)))).toOption.map (·.sql) =
        some "\"age\" between ?" := by decide
  obtain ⟨f, written, text⟩ := success_of_toOption succeeds
  have between : (Predicate.compare (.name "age") " BETWEEN" (.value (.int 5))).ComparesBetween :=
    ⟨" BETWEEN", by simp [Predicate.operators], by decide⟩
  obtain ⟨complete, taken⟩ := predicate_complete_iff "" (f := f) (by simp [Predicate.Obeys,
    Ident.Obeys, Operand.Obeys]) written (by simp [text])
  refine ⟨f, written, text, fun whole => complete.mp whole between, ?_⟩
  rw [taken between, text]
  decide

end QueryDialect
end SqlCompose
