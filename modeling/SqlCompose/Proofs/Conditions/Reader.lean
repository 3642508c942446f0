import SqlCompose.Condition
import SqlCompose.Proofs.Conditions.Tree
import SqlCompose.Proofs.Unions.Closing

/-!
# Reading conditions

The text of a row of conditions is read word by word. A quoted name is part of one word, and so is
whatever stands in parentheses; `and` and `or` end a condition, but the `and` behind `between` belongs
to its test. A condition that is one word in parentheses is a group, and is read in the same way. A
row that is put together from conditions that read as one condition each reads as those in a row
(`readAt_row`).
-/
namespace SqlCompose.Condition

open Text (Balanced Solitary)

/-- One word further in a condition, or the connective that ends it; after `between` the next `and`
does not. -/
def nextWord (between : Bool) (word : String) : Except Connective Bool :=
  if word = "and" then
    if between then .ok false else .error .and
  else if word = "or" then .error .or
  else .ok (between || word = "between")

/-- The words of the first condition, and those of the others with their connectives. -/
def cut : Bool → List String → List String × List (Connective × List String)
  | _, [] => ([], [])
  | between, word :: words =>
    match nextWord between word with
    | .ok between => (word :: (cut between words).1, (cut between words).2)
    | .error connective => ([], (connective, (cut false words).1) :: (cut false words).2)

/-- What stands between the parentheses of a word. -/
def inParentheses (word : String) : Option String :=
  match word.toList with
  | '(' :: cs => if cs.getLast? = some ')' then some (String.ofList cs.dropLast) else none
  | _ => none

/-- One word in parentheses is a group, other words are a test. -/
def readCondition (group : String → Option (Chain String)) : List String → Option (Tree String)
  | [] => none
  | [word] =>
    match inParentheses word with
    | some s => (group s).map .group
    | none => some (.test word)
  | words => some (.test (Text.joinWith " " words))

def readRow (group : String → Option (Chain String)) :
    List String → List (Connective × List String) → Option (Chain String)
  | words, [] => (readCondition group words).map .last
  | words, (connective, next) :: rest => do
    return .link (← readCondition group words) connective (← readRow group next rest)

/-- A row of conditions in which groups nest less deep than `depth`. -/
def readAt (quote : Char) : Nat → String → Option (Chain String)
  | 0, _ => none
  | depth + 1, s =>
    let parts := cut false (Text.words quote s)
    if Balanced quote s.toList then readRow (readAt quote depth) parts.1 parts.2 else none

/-- The row of conditions that a text is. Each group takes two characters, so the text is longer than
its groups are deep. -/
def read (quote : Char) (s : String) : Option (Chain String) := readAt quote (s.length + 1) s

/-! ## Words that make one condition -/

/-- No connective in the words ends a condition. -/
def Whole (words : List String) : Prop := words.foldlM nextWord false = .ok false

instance (words : List String) : Decidable (Whole words) := inferInstanceAs (Decidable (_ = _))

theorem cut_append {between after : Bool} {words : List String}
    (inside : words.foldlM nextWord between = .ok after) (rest : List String) :
    cut between (words ++ rest) = (words ++ (cut after rest).1, (cut after rest).2) := by
  induction words generalizing between with
  | nil =>
    cases inside
    rfl
  | cons word words ih =>
    rw [List.foldlM_cons] at inside
    cases step : nextWord between word with
    | error connective =>
      rw [step] at inside
      cases inside
    | ok next =>
      rw [step] at inside
      have rest_cut := ih inside
      simp [cut, step, rest_cut]

theorem Whole.cut {words : List String} (whole : Whole words) :
    cut false words = (words, []) := by
  have alone := cut_append whole []
  simpa [Condition.cut] using alone

theorem Whole.cut_link {words : List String} (whole : Whole words) (connective : Connective)
    (rest : List String) : Condition.cut false (words ++ connective.keyword :: rest) =
      (words, (connective, (Condition.cut false rest).1) :: (Condition.cut false rest).2) := by
  have ends : nextWord false connective.keyword = .error connective := by
    cases connective <;> decide
  rw [cut_append whole]
  simp [Condition.cut, ends]

theorem foldlM_words {before mid after : Bool} {ws us : List String}
    (first : ws.foldlM nextWord before = .ok mid) (second : us.foldlM nextWord mid = .ok after) :
    (ws ++ us).foldlM nextWord before = .ok after := by
  rw [List.foldlM_append, first]
  exact second

/-- Words that neither end a condition nor wait for an `and`. -/
theorem foldlM_plain (between : Bool) {words : List String}
    (plain : ∀ w ∈ words, w ∉ ["and", "or", "between"]) :
    words.foldlM nextWord between = .ok between := by
  induction words with
  | nil => rfl
  | cons word words ih =>
    have first := plain word (by simp)
    have others := ih fun w member => plain w (by simp [member])
    simp only [List.mem_cons, List.not_mem_nil, or_false, not_or] at first
    have step : nextWord between word = .ok between := by simp [nextWord, first]
    rw [List.foldlM_cons, step]
    exact others

/-! ## Texts that read as one condition -/

theorem inParentheses_none {word : String} {c : Char} (head : word.toList.head? = some c)
    (other : c ≠ '(') : inParentheses word = none := by
  unfold inParentheses
  split
  · next cs chars =>
    rw [chars] at head
    exact absurd (Option.some.inj head).symm other
  · rfl

theorem inParentheses_bracket (s : String) : inParentheses ("(" ++ s ++ ")") = some s := by
  have chars : ("(" ++ s ++ ")").toList = '(' :: (s.toList ++ [')']) := by simp
  simp [inParentheses, chars]

/-- The text reads as this condition, also between other conditions. -/
def Reads (quote : Char) (s : String) (condition : Tree String) : Prop :=
  ∃ ws, Tight quote s ws ∧ Whole ws ∧
    ∀ depth, s.length ≤ depth → readCondition (readAt quote depth) ws = some condition

variable {quote : Char}

theorem Reads.ne_empty {s : String} {condition : Tree String} (reads : Reads quote s condition) :
    s ≠ "" := by
  rintro rfl
  obtain ⟨ws, tight, _, _⟩ := reads
  exact tight.some tight.words.symm

/-- What reads as a row of conditions reads as a group in parentheses. -/
theorem reads_group (quotes : Quotes quote) {s : String} {members : Chain String}
    (balanced : Balanced quote s.toList)
    (inner : ∀ depth, s.length < depth → readAt quote depth s = some members) :
    Reads quote ("(" ++ s ++ ")") (.group members) := by
  have solitary := Text.solitary_parentheses quotes.brackets balanced
  have other : ∀ w ∈ ["and", "or", "between"], '(' ∉ w.toList := by decide
  refine ⟨["(" ++ s ++ ")"], .word solitary (by simp), ?_, ?_⟩
  · apply foldlM_plain
    intro w member stops
    obtain rfl := List.mem_singleton.mp member
    exact other _ stops (by simp)
  · intro depth deep
    have shorter : s.length < depth := by
      have length : ("(" ++ s ++ ")").length = s.length + 2 := by
        simp only [String.length_append]
        rw [show "(".length = 1 from rfl, show ")".length = 1 from rfl]
        omega
      omega
    simp [readCondition, inParentheses_bracket, inner depth shorter]

theorem keyword_tight (quotes : Quotes quote) (connective : Connective) :
    Tight quote connective.keyword [connective.keyword] :=
  .letters quotes (by cases connective <;> decide) (by cases connective <;> decide)

/-- The words of a row are those of its parts and the connective between them. -/
theorem words_link (quotes : Quotes quote) {s : String} (balanced : Balanced quote s.toList)
    (connective : Connective) (t : String) :
    Text.words quote (s ++ " " ++ connective.keyword ++ " " ++ t) =
      Text.words quote s ++ connective.keyword :: Text.words quote t := by
  have keyword := keyword_tight quotes connective
  have front := Text.balanced_space quotes.shown balanced keyword.balanced
  rw [Text.words_space quotes.shown front, Text.words_space quotes.shown balanced, keyword.words,
    List.append_assoc]
  rfl

theorem balanced_link (quotes : Quotes quote) {s t : String} (balanced : Balanced quote s.toList)
    (connective : Connective) (behind : Balanced quote t.toList) :
    Balanced quote (s ++ " " ++ connective.keyword ++ " " ++ t).toList :=
  Text.balanced_space quotes.shown
    (Text.balanced_space quotes.shown balanced (keyword_tight quotes connective).balanced) behind

/-- A row of texts with connectives reads as the row of the conditions that they read as. -/
theorem readAt_row (quotes : Quotes quote) (connective : Connective) {s : String}
    {condition : Tree String} {texts : List (Connective × String)}
    {conditions : List (Connective × Tree String)} (first : Reads quote s condition)
    (each : List.Forall₂ (fun t c => t.1 = c.1 ∧ Reads quote t.2 c.2) texts conditions) :
    Balanced quote (joinConditions ((connective, s) :: texts)).toList ∧
    ∀ depth, (joinConditions ((connective, s) :: texts)).length < depth →
      readAt quote depth (joinConditions ((connective, s) :: texts)) =
        some (.following condition conditions) := by
  -- the reader calls itself only on groups, so one level of it is all there is to the row
  suffices row : Balanced quote (joinConditions ((connective, s) :: texts)).toList ∧
      ∀ depth, (joinConditions ((connective, s) :: texts)).length ≤ depth →
        readRow (readAt quote depth)
          (cut false (Text.words quote (joinConditions ((connective, s) :: texts)))).1
          (cut false (Text.words quote (joinConditions ((connective, s) :: texts)))).2 =
            some (.following condition conditions) by
    refine ⟨row.1, fun depth deep => ?_⟩
    cases depth with
    | zero => omega
    | succ depth =>
      rw [readAt, if_pos row.1]
      exact row.2 depth (by omega)
  induction each generalizing connective s condition with
  | nil =>
    obtain ⟨ws, tight, whole, reads⟩ := first
    have alone : joinConditions [(connective, s)] = s := by
      simp [joinConditions, followingConditions]
    rw [alone, tight.words, whole.cut]
    refine ⟨tight.balanced, fun depth deep => ?_⟩
    simp [readRow, reads depth deep, Chain.following]
  | @cons t c texts conditions next others ih =>
    obtain ⟨given, t⟩ := t
    obtain ⟨connective', condition'⟩ := c
    obtain ⟨rfl, following⟩ := next
    obtain ⟨ws, tight, whole, reads⟩ := first
    obtain ⟨balanced, rest⟩ := ih given following
    rw [joinConditions_cons_cons]
    have words : Text.words quote (s ++ " " ++ given.keyword ++ " " ++
        joinConditions ((given, t) :: texts)) =
          ws ++ given.keyword :: Text.words quote (joinConditions ((given, t) :: texts)) := by
      rw [words_link quotes tight.balanced, tight.words]
    refine ⟨balanced_link quotes tight.balanced given balanced, fun depth deep => ?_⟩
    have lengths : s.length ≤ depth ∧ (joinConditions ((given, t) :: texts)).length ≤ depth := by
      simp only [String.length_append] at deep
      omega
    rw [words, whole.cut_link, readRow, reads depth lengths.1, rest depth lengths.2]
    rfl

/-- The text of a condition: nothing, or what reads as it. -/
inductive Spells (quote : Char) : String → Option (Tree String) → Prop where
  | nothing : Spells quote "" none
  | condition {s : String} {t : Tree String} : Reads quote s t → Spells quote s (some t)

/-- The text of a row of conditions: nothing, or what reads as it. -/
inductive RowSpells (quote : Char) : String → Option (Chain String) → Prop where
  | nothing : RowSpells quote "" none
  | row {s : String} {c : Chain String} : s ≠ "" → Balanced quote s.toList →
    (∀ depth, s.length < depth → readAt quote depth s = some c) → RowSpells quote s (some c)

/-- A row without text makes no group. -/
theorem RowSpells.group (quotes : Quotes quote) {f : Fragment} {members : Option (Chain String)}
    (row : RowSpells quote f.sql members) :
    Spells quote (if f.sql = "" then f else "(" ++ f ++ ")").sql (members.map .group) := by
  obtain ⟨s, values⟩ := f
  dsimp only at row ⊢
  cases row with
  | nothing => exact .nothing
  | row some balanced reads =>
    rw [if_neg some]
    exact .condition (reads_group quotes balanced reads)

/-- The conditions with text, joined, are the row of what they read as. -/
theorem join_spells {α : Type} (quotes : Quotes quote) (text : α → String)
    {conditions : List Condition} {trees : List (Connective × Tree α)}
    (each : List.Forall₂
      (fun c t => c.connective = t.1 ∧ Reads quote c.fragment.sql (t.2.map text))
      (visible conditions) trees) :
    RowSpells quote (join conditions).sql ((Chain.ofList trees).map (Chain.map text)) := by
  have joined : (join conditions).sql =
      joinConditions ((visible conditions).map fun c => (c.connective, c.fragment.sql)) := rfl
  rw [joined]
  generalize visible conditions = shown at each
  cases each with
  | nil => exact .nothing
  | @cons c t rest trees first others =>
    have pairs : List.Forall₂ (fun s t => s.1 = t.1 ∧ Reads quote s.2 t.2)
        (rest.map fun c => (c.connective, c.fragment.sql))
        (trees.map fun t => (t.1, t.2.map text)) :=
      List.forall₂_map_left_iff.mpr (List.forall₂_map_right_iff.mpr others)
    obtain ⟨balanced, reads⟩ := readAt_row quotes c.connective first.2 pairs
    rw [Chain.ofList, Option.map_some, Chain.map_following]
    refine .row ?_ balanced reads
    simp [joinConditions, first.2.ne_empty]

end SqlCompose.Condition
