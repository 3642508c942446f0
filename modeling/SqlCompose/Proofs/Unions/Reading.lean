import SqlCompose.Proofs.Unions.Clauses
import SqlCompose.Proofs.Unions.Dialects
import SqlCompose.Proofs.Unions.Tree

/-!
# Reading a select

The words of a select without united queries are those of its clauses, which start with `select` and
have no closing word, and then those of its order, bounds and lock.
-/
namespace SqlCompose.QueryDialect

open Text (Balanced Solitary)

/-! ## Orders -/

namespace Legible

variable {d : QueryDialect} (h : d.Legible)

include h

theorem part_word (s : String) :
    Solitary d.quoter.quote (d.quoter.part s).toList ∧ d.quoter.part s ≠ "" := by
  unfold Quoter.part
  split
  · next star =>
    rw [star]
    exact ⟨h.star, by decide⟩
  · refine ⟨Text.solitary_quoted h.quotes.shown s, ?_⟩
    simp [Text.quoted, ← String.toList_inj]

theorem dotted_word {parts : List String} (some : parts ≠ []) :
    Solitary d.quoter.quote (Text.joinWith "." (parts.map d.quoter.part)).toList ∧
      Text.joinWith "." (parts.map d.quoter.part) ≠ "" := by
  induction parts with
  | nil => exact absurd rfl some
  | cons s parts ih =>
    obtain ⟨one, shown⟩ := h.part_word s
    cases parts with
    | nil => exact ⟨one, shown⟩
    | cons t parts =>
      obtain ⟨rest, _⟩ := ih (by simp)
      rw [List.map_cons, List.map_cons, Text.joinWith_cons_cons, ← List.map_cons]
      constructor
      · rw [String.toList_append, String.toList_append]
        exact (one.append h.dot).append rest
      · simp [shown]

theorem columnParts_word (name : String) :
    Solitary d.quoter.quote (d.quoter.columnParts name).toList ∧ d.quoter.columnParts name ≠ "" := by
  unfold Quoter.columnParts
  have some : dottedParts name ≠ [] := by simp [dottedParts, Text.splitAt_ne_nil]
  cases parts : dottedParts name with
  | nil => exact absurd parts some
  | cons qualifier rest =>
    cases rest with
    | nil => exact h.dotted_word (by simp)
    | cons s rest =>
      have whole := h.dotted_word (List.cons_ne_nil (d.quoter.tablePrefix ++ qualifier) (s :: rest))
      exact whole

/-- A character of a part of a name that is in no keyword. -/
theorem part_sign (s : String) : ∃ c ∈ (d.quoter.part s).toList, c.isAlphanum = false := by
  unfold Quoter.part
  split
  · next star =>
    rw [star]
    exact ⟨'*', by decide, by decide⟩
  · exact ⟨d.quoter.quote, by simp [Text.quoted], h.quotes.letter⟩

theorem columnParts_sign (name : String) :
    ∃ c ∈ (d.quoter.columnParts name).toList, c.isAlphanum = false := by
  have dotted (s : String) (rest : List String) :
      ∃ c ∈ (Text.joinWith "." (d.quoter.part s :: rest)).toList, c.isAlphanum = false := by
    obtain ⟨c, member, sign⟩ := h.part_sign s
    cases rest with
    | nil => exact ⟨c, member, sign⟩
    | cons t rest => exact ⟨c, by simp [member], sign⟩
  unfold Quoter.columnParts
  cases parts : dottedParts name with
  | nil => exact absurd parts (by simp [dottedParts, Text.splitAt_ne_nil])
  | cons qualifier rest =>
    cases rest with
    | nil => exact dotted qualifier []
    | cons s rest => exact dotted (d.quoter.tablePrefix ++ qualifier) _

/-- A column is one word, or a word and its alias. -/
theorem column_tight {i : Ident} (plain : i.Obeys .none) :
    ∃ ws, Tight d.quoter.quote (d.quoter.column i) ws ∧
      ∀ w ∈ ws, w = "as" ∨ ∃ c ∈ w.toList, c.isAlphanum = false := by
  cases i with
  | raw sql => exact plain.elim
  | name text =>
    have spelled (s t : String) : s ++ " as " ++ t = s ++ " " ++ "as" ++ " " ++ t := by
      simp [← String.toList_inj]
    have as_word : Tight d.quoter.quote "as" ["as"] := .letters h.quotes (by decide) (by decide)
    unfold Quoter.column Quoter.columnName
    dsimp only
    split
    · next base knownAs _ =>
      obtain ⟨one, shown⟩ := h.columnParts_word base
      obtain ⟨one', shown'⟩ := h.part_word knownAs
      have sign := h.columnParts_sign base
      have sign' := h.part_sign knownAs
      rw [spelled]
      refine ⟨_, ((Tight.word one shown).space h.quotes.shown as_word).space h.quotes.shown
        (.word one' shown'), ?_⟩
      simp only [List.mem_append, List.mem_singleton]
      rintro w ((rfl | rfl) | rfl)
      · exact .inr sign
      · exact .inl rfl
      · exact .inr sign'
    · obtain ⟨one, shown⟩ := h.columnParts_word text
      refine ⟨_, .word one shown, fun w member => .inr ?_⟩
      obtain rfl := List.mem_singleton.mp member
      exact h.columnParts_sign text

theorem orderTexts_tight {keys : List SortKey} (plain : ∀ key ∈ keys, key.column.Obeys .none)
    (some : keys ≠ []) :
    ∃ ws, Tight d.quoter.quote (Text.joinWith ", " (keys.map d.orderText)) ws := by
  have direction (way : Direction) :
      Tight d.quoter.quote way.keyword [way.keyword] ∧
        Tight d.quoter.quote (way.keyword ++ ",") [way.keyword ++ ","] := by
    have letters : way.keyword.toList.all Char.isAlphanum = true := by cases way <;> decide
    have shown : way.keyword ≠ "" := by cases way <;> decide
    have one := Text.solitary_of_alphanum h.quotes.letter (List.all_eq_true.mp letters)
    refine ⟨.word one shown, .word ?_ (by simp [shown])⟩
    rw [String.toList_append]
    exact one.append h.comma
  induction keys with
  | nil => exact absurd rfl some
  | cons key keys ih =>
    obtain ⟨ws, column, _⟩ := h.column_tight (plain key (by simp))
    cases keys with
    | nil => exact ⟨_, column.space h.quotes.shown (direction key.direction).1⟩
    | cons next keys =>
      obtain ⟨us, rest⟩ := ih (fun k member => plain k (by simp [member])) (by simp)
      have spelled : Text.joinWith ", " ((key :: next :: keys).map d.orderText) =
          d.quoter.column key.column ++ " " ++ (key.direction.keyword ++ ",") ++ " " ++
            Text.joinWith ", " ((next :: keys).map d.orderText) := by
        simp [orderText, ← String.toList_inj]
      rw [spelled]
      exact ⟨_, (column.space h.quotes.shown (direction key.direction).2).space h.quotes.shown rest⟩

theorem ordersText_tight {keys : List SortKey} (plain : ∀ key ∈ keys, key.column.Obeys .none) :
    ∀ s ∈ Closing.shownText (d.ordersText keys), ∃ ws, (∀ w ∈ ws, w ∉ closingWords) ∧
      Tight d.quoter.quote s ("order" :: ws) := by
  intro s member
  cases keys with
  | nil => cases member
  | cons key keys =>
    obtain ⟨ws, tight⟩ := h.orderTexts_tight plain (by simp)
    have avoids := ((h.clauses (List.Subset.refl _)).orderTexts plain).2.2
    rw [Fragment.sql_ofText, tight.words] at avoids
    have order_word : Tight d.quoter.quote "order" ["order"] :=
      .letters h.quotes (by decide) (by decide)
    have by_word : Tight d.quoter.quote "by" ["by"] := .letters h.quotes (by decide) (by decide)
    have whole := (order_word.space h.quotes.shown by_word).space h.quotes.shown tight
    have spelled : d.ordersText (key :: keys) = "order" ++ " " ++ "by" ++ " " ++
        Text.joinWith ", " ((key :: keys).map d.orderText) := by
      simp [ordersText]
    rw [← spelled] at whole
    have same : s = d.ordersText (key :: keys) := by
      unfold Closing.shownText at member
      split at member
      · cases member
      · exact List.mem_singleton.mp member
    rw [same]
    refine ⟨"by" :: ws, ?_, whole⟩
    intro w inside
    rcases List.mem_cons.mp inside with rfl | inside
    · decide
    · exact avoids w inside

end Legible

/-! ## What closes a select -/

variable (d : QueryDialect) (normal : Bounds → Bounds)

/-- The order, bounds and lock of a query itself. -/
def closing (q : Query) : Closing :=
  ⟨d.ordersText q.orders, normal ⟨q.limit, q.offset⟩, d.lockText q.lock⟩

/-- The order and bounds of a union as a whole. -/
def unionClosing (q : Query) : Closing :=
  ⟨d.ordersText q.unionOrders, normal ⟨q.unionLimit, q.unionOffset⟩, ""⟩

theorem words_shownText (quote : Char) (s : String) :
    (Closing.shownText s).flatMap (Text.words quote) = Text.words quote s := by
  unfold Closing.shownText
  split
  · next empty =>
    rw [empty]
    rfl
  · simp

namespace Closes

variable {d normal} (h : d.Closes normal)

include h

theorem lock_proper {l : Option Lock} (plain : ∀ x, l = some x → x.Obeys .none) :
    ∀ s ∈ Closing.shownText (d.lockText l), ∃ k ws, k ∈ ["for", "lock"] ∧
      (∀ w ∈ ws, w ∉ closingWords) ∧ Tight d.quoter.quote s (k :: ws) := by
  intro s member
  have same : s = d.lockText l := by
    unfold Closing.shownText at member
    split at member
    · cases member
    · exact List.mem_singleton.mp member
  match l with
  | none => cases member
  | some (.raw sql) => exact (plain _ rfl).elim
  | some .shared =>
    rw [same]
    exact h.lock
  | some .exclusive =>
    have for_word : Tight d.quoter.quote "for" ["for"] := .letters h.quotes (by decide) (by decide)
    have update_word : Tight d.quoter.quote "update" ["update"] :=
      .letters h.quotes (by decide) (by decide)
    have spelled : "for update" = "for" ++ " " ++ "update" := by decide
    rw [same, lockText, spelled]
    exact ⟨"for", ["update"], by decide, by decide, for_word.space h.quotes.shown update_word⟩

theorem closing_proper {q : Query} (parts : q.PartsObey .none) :
    (d.closing normal q).Proper d.quoter.quote where
  order := h.ordersText_tight parts.orders
  lock := h.lock_proper parts.lock

theorem unionClosing_proper {q : Query} (parts : q.PartsObey .none) :
    (d.unionClosing normal q).Proper d.quoter.quote where
  order := h.ordersText_tight parts.unionOrders
  lock := by simp [unionClosing, Closing.shownText]

theorem words_closing (order lock : String) (b : Bounds) :
    Text.words d.quoter.quote order ++ (Text.words d.quoter.quote (d.limit b) ++
      (Text.words d.quoter.quote (d.offset b) ++ Text.words d.quoter.quote lock)) =
      (Closing.mk order (normal b) lock).texts.flatMap (Text.words d.quoter.quote) := by
  rw [Closing.texts, List.flatMap_append, List.flatMap_append, words_shownText, words_shownText,
    ← h.bound_words b, List.append_assoc]

/-- A bound that is not there has no text. -/
theorem boundTexts_eq (q : Query) :
    d.boundTexts q = [d.limit (bounds q), d.offset (bounds q)] := by
  have limit : (if q.limit.isSome then d.limit (bounds q) else "") = d.limit (bounds q) := by
    cases given : q.limit with
    | none => exact (h.limit_none (bounds q) given).symm
    | some n => rfl
  have offset : (if q.offset.isSome then d.offset (bounds q) else "") = d.offset (bounds q) := by
    cases given : q.offset with
    | none => exact (h.offset_none (bounds q) given).symm
    | some n => rfl
  rw [boundTexts, limit, offset]

/-! ## Selects without united queries -/

theorem columns_head (distinct : Bool) (names : Option (List Ident)) :
    (Text.words d.quoter.quote (d.columnsText distinct none names)).head? = some "select" := by
  have select_word : Tight d.quoter.quote "select" ["select"] :=
    .letters h.quotes (by decide) (by decide)
  have distinct_word : Tight d.quoter.quote "distinct" ["distinct"] :=
    .letters h.quotes (by decide) (by decide)
  have behind (s : String) : (Text.words d.quoter.quote
      ((if distinct then "select distinct" else "select") ++ " " ++ s)).head? = some "select" := by
    cases distinct with
    | false =>
      show (Text.words d.quoter.quote ("select" ++ " " ++ s)).head? = some "select"
      rw [Text.words_space h.quotes.shown select_word.balanced, select_word.words]
      rfl
    | true =>
      have both := select_word.space h.quotes.shown distinct_word
      have spelled : "select distinct" = "select" ++ " " ++ "distinct" := by decide
      show (Text.words d.quoter.quote ("select distinct" ++ " " ++ s)).head? = some "select"
      rw [spelled, Text.words_space h.quotes.shown both.balanced, both.words]
      rfl
  have star : (if distinct then "select distinct" else "select") ++ " *" =
      (if distinct then "select distinct" else "select") ++ " " ++ "*" := by
    simp [← String.toList_inj]
  match names with
  | none | some [] =>
    have text := behind "*"
    rwa [← star] at text
  | some (i :: rest) => exact behind (d.quoter.columns (i :: rest))

/-- The words of a select: its clauses, then its order, bounds and lock. -/
theorem assemble_reads {q : Query} (parts : q.PartsObey .none) {js cs hs : Fragment}
    (joins : Avoids d.quoter.quote closingWords js.sql)
    (conditions : Avoids d.quoter.quote closingWords cs.sql)
    (havings : Avoids d.quoter.quote closingWords hs.sql) :
    IsSelect d.quoter.quote (d.closing normal q) (d.assemble q none js cs hs).sql := by
  have c := h.clauses (List.Subset.refl closingWords)
  have columns := (c.columnsText q.distinct parts.columns).2
  have source := (c.fromText parts.table).2
  have groups := (c.groupsText parts.groups).2
  have whole := h.queries
  have order := (whole.ordersText parts.orders).2.1
  have lock := (whole.lockText parts.lock).2.1
  have text : (d.assemble q none js cs hs).sql = concatenate ["",
      d.columnsText q.distinct none q.columns, d.fromText q.table, js.sql, cs.sql,
      d.groupsText q.groups, hs.sql, d.ordersText q.orders, d.limit (bounds q),
      d.offset (bounds q), d.lockText q.lock] := by
    unfold assemble
    rw [h.boundTexts_eq]
    rfl
  have balanced : ∀ s ∈ ["", d.columnsText q.distinct none q.columns, d.fromText q.table, js.sql,
      cs.sql, d.groupsText q.groups, hs.sql, d.ordersText q.orders, d.limit (bounds q),
      d.offset (bounds q), d.lockText q.lock], Text.Balanced d.quoter.quote s.toList := by
    simp only [List.forall_mem_cons, List.not_mem_nil, false_implies, implies_true, and_true]
    exact ⟨rfl, columns.1, source.1, joins.1, conditions.1, groups.1, havings.1, order, h.limit _,
      h.offset _, lock⟩
  have apart (f : Fragment) (avoids : Avoids d.quoter.quote closingWords f.sql) :
      Throughout (Avoids d.quoter.quote []) f f := ⟨rfl, Legible.balanced_iff.mpr avoids.1⟩
  have closed := (whole.assemble parts (apart js joins) (apart cs conditions)
    (apart hs havings)).2.1
  refine ⟨h.closing_proper parts, closed,
    Text.words d.quoter.quote (d.columnsText q.distinct none q.columns) ++
    (Text.words d.quoter.quote (d.fromText q.table) ++ (Text.words d.quoter.quote js.sql ++
    (Text.words d.quoter.quote cs.sql ++ (Text.words d.quoter.quote (d.groupsText q.groups) ++
    Text.words d.quoter.quote hs.sql)))), ⟨?_, ?_⟩, ?_⟩
  · rw [List.head?_append, h.columns_head]
    rfl
  · simp only [List.forall_mem_append]
    exact ⟨columns.2, source.2, joins.2, conditions.2, groups.2, havings.2⟩
  · have closing := h.words_closing (d.ordersText q.orders) (d.lockText q.lock) (bounds q)
    rw [text, Text.words_concatenate h.quotes.shown balanced]
    simp only [List.flatMap_cons, List.flatMap_nil, Text.words_empty, List.nil_append,
      List.append_nil, List.append_assoc, closing]
    rfl

end Closes
end SqlCompose.QueryDialect
