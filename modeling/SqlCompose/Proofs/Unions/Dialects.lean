import SqlCompose.Proofs.Bounds
import SqlCompose.Proofs.Unions.Closing

/-!
# MySQL and PostgreSQL are legible

What the two dialects bring to clauses avoids the closing words, and their bounds and locks start with
one. In MySQL an offset without a limit is written with the largest 64-bit number as its limit, so the
bounds that are read back have that limit.
-/
namespace SqlCompose

open Text (Balanced)

namespace Avoids

variable {quote : Char} {banned : List String} {s t : String}

/-- A call is one word behind its name. -/
theorem called (part : banned ⊆ closingWords) (quotes : Quotes quote)
    (left : Avoids quote banned s) (inner : Avoids quote banned t) :
    Avoids quote banned (s ++ "(" ++ t ++ ")") := by
  have spelled : s ++ "(" ++ t ++ ")" = s ++ ("(" ++ t ++ ")") := by
    simp [String.append_assoc]
  rw [spelled]
  exact left.call part quotes.brackets inner.1

/-- A negation in front. -/
theorem negated (quotes : Quotes quote) (negated : Bool) (word : Avoids quote banned "not")
    (h : Avoids quote banned s) :
    Avoids quote banned ((if negated then "not " else "") ++ s) := by
  cases negated with
  | false => simpa using h
  | true =>
    have spelled : (if true then "not " else "") ++ s = "not" ++ " " ++ s := by
      simp
    rw [spelled]
    exact word.space quotes.shown h

end Avoids

namespace QueryDialect

/-- The bounds and locks of a legible dialect, read as `normal` says. -/
structure Closes (d : QueryDialect) (normal : Bounds → Bounds) : Prop extends Legible d where
  lock : ∃ k ws, k ∈ ["for", "lock"] ∧ (∀ w ∈ ws, w ∉ closingWords) ∧
    Tight d.quoter.quote d.sharedLock (k :: ws)
  limit_none (b : Bounds) : b.limit = none → d.limit b = ""
  offset_none (b : Bounds) : b.offset = none → d.offset b = ""
  bound_words (b : Bounds) : Text.words d.quoter.quote (d.limit b) ++
    Text.words d.quoter.quote (d.offset b) =
      (normal b).texts.flatMap (Text.words d.quoter.quote)

theorem limit_spelled (n : Nat) : "limit " ++ toString n = "limit" ++ " " ++ toString n := by
  simp

theorem offset_spelled (n : Nat) : "offset " ++ toString n = "offset" ++ " " ++ toString n := by
  simp

theorem limit_tight {quote : Char} (quotes : Quotes quote) (n : Nat) :
    Tight quote ("limit " ++ toString n) ["limit", toString n] := by
  rw [limit_spelled]
  exact .number quotes (by decide) n

theorem offset_tight {quote : Char} (quotes : Quotes quote) (n : Nat) :
    Tight quote ("offset " ++ toString n) ["offset", toString n] := by
  rw [offset_spelled]
  exact .number quotes (by decide) n

theorem Numbered.balanced {words : List String} {s : String} (numbered : Numbered words s)
    (quote : Char) (quotes : Quotes quote)
    (each : ∀ word ∈ words, Balanced quote word.toList) : Balanced quote s.toList := by
  refine numbered.holds (P := fun s => Balanced quote s.toList) rfl each ?_ ?_
  · intro n
    exact (Text.solitary_toString quotes.letter n).1
  · intro s t left right
    rw [String.toList_append]
    exact left.append right

theorem mySql_quotes : Quotes '\x60' := ⟨by decide, by decide, by decide, by decide⟩

/-- The bounds as MySQL writes them. -/
def MySql.normal (b : Bounds) : Bounds where
  limit := if b.offset.isSome then some (b.limit.getD 18446744073709551615) else b.limit
  offset := b.offset

/-- An offset with the limit that stands for none. -/
theorem MySql.filled_tight (n : Nat) :
    Tight '\x60' ("limit 18446744073709551615 offset " ++ toString n)
      ["limit", "18446744073709551615", "offset", toString n] := by
  have spelled : "limit 18446744073709551615 offset " ++ toString n =
      "limit" ++ " " ++ "18446744073709551615" ++ " " ++ ("offset" ++ " " ++ toString n) := by
    simp [← String.toList_inj]
  have largest := Tight.number mySql_quotes (by decide : "limit" ∈ closingWords) 18446744073709551615
  have digits : toString 18446744073709551615 = "18446744073709551615" := by decide
  rw [digits] at largest
  rw [spelled]
  exact largest.space mySql_quotes.shown (.number mySql_quotes (by decide) n)

theorem MySql.datePart_avoids {banned : List String} {s : String} (part : DatePart)
    (banned_part : banned ⊆ closingWords) (avoids : Avoids '\x60' banned s) :
    Avoids '\x60' banned (part.keyword ++ "(" ++ s ++ ")") := by
  have word : Avoids '\x60' closingWords part.keyword := by cases part <;> decide
  exact Avoids.called banned_part mySql_quotes (word.mono banned_part) avoids

theorem MySql.jsonContains_avoids {banned : List String} {s : String} (negated : Bool)
    (part : banned ⊆ closingWords) (avoids : Avoids '\x60' banned s) :
    Avoids '\x60' banned
      ((MySql.jsonContains negated s).1 ++ "?" ++ (MySql.jsonContains negated s).2) := by
  have name : Avoids '\x60' closingWords "json_contains" := by decide
  have not : Avoids '\x60' closingWords "not" := by decide
  have mark : Avoids '\x60' closingWords "?" := by decide
  have word : Text.Solitary '\x60' ",".toList := by decide
  have comma := Avoids.behind part avoids word (by decide : Sign ',') (by decide)
  have inner := comma.space mySql_quotes.shown (mark.mono part)
  have spelled (lead : String) : lead ++ "json_contains(" ++ s ++ ", " ++ "?" ++ ")" =
      lead ++ ("json_contains" ++ "(" ++ (s ++ "," ++ " " ++ "?") ++ ")") := by
    simp [← String.toList_inj]
  have call := Avoids.called part mySql_quotes (name.mono part) inner
  show Avoids '\x60' banned
    ((if negated then "not " else "") ++ "json_contains(" ++ s ++ ", " ++ "?" ++ ")")
  rw [spelled]
  exact Avoids.negated mySql_quotes negated (not.mono part) call

theorem mySql_legible (tablePrefix : String) : (mySql tablePrefix).Legible where
  positional := rfl
  quotes := mySql_quotes
  comma := (by decide : Text.Solitary '\x60' ",".toList)
  dot := (by decide : Text.Solitary '\x60' ".".toList)
  star := (by decide : Text.Solitary '\x60' "*".toList)
  mark := (by decide : Avoids '\x60' closingWords "?")
  fixed := (by decide : ∀ s ∈ fixedTexts, Avoids '\x60' closingWords s)
  boundary := (by decide : ∀ s ∈ boundaryTexts, Balanced '\x60' s.toList)
  operators := (by decide : ∀ o ∈ MySql.operators, Avoids '\x60' closingWords
    (String.ofList (Text.replaceChar '?' ['?', '?'] o.toList)))
  datePart p _ part avoids := MySql.datePart_avoids p part avoids
  jsonContains negated _ part avoids := MySql.jsonContains_avoids negated part avoids
  jsonLength {banned} s part avoids := by
    have name : Avoids '\x60' closingWords "json_length" := by decide
    show Avoids '\x60' banned ("json_length" ++ "(" ++ s ++ ")")
    exact Avoids.called part mySql_quotes (name.mono part) avoids
  sharedLock := (by decide : Balanced '\x60' "lock in share mode".toList)
  limit b := (MySql.bounds_numbered b).1.balanced '\x60' mySql_quotes (by decide)
  offset b := (MySql.bounds_numbered b).2.balanced '\x60' mySql_quotes (by decide)

theorem mySql_closes (tablePrefix : String) : (mySql tablePrefix).Closes MySql.normal where
  toLegible := mySql_legible tablePrefix
  lock := by
    have word {s : String} (letters : s.toList.all Char.isAlphanum = true) (some : s ≠ "") :
        Tight '\x60' s [s] := .letters mySql_quotes letters some
    have spelled : "lock in share mode" = "lock" ++ " " ++ "in" ++ " " ++ "share" ++ " " ++ "mode" := by
      decide
    have lock_in := (word (s := "lock") (by decide) (by decide)).space mySql_quotes.shown
      (word (s := "in") (by decide) (by decide))
    have share := lock_in.space mySql_quotes.shown (word (s := "share") (by decide) (by decide))
    refine ⟨"lock", ["in", "share", "mode"], by decide, by decide, ?_⟩
    show Tight '\x60' "lock in share mode" _
    rw [spelled]
    exact share.space mySql_quotes.shown (word (by decide) (by decide))
  limit_none b none := by
    show MySql.limit b = ""
    simp [MySql.limit, none]
  offset_none b none := by
    show MySql.offset b = ""
    simp [MySql.offset, none]
  bound_words b := by
    show Text.words '\x60' (MySql.limit b) ++ Text.words '\x60' (MySql.offset b) =
      (MySql.normal b).texts.flatMap (Text.words '\x60')
    rw [Bounds.words_texts mySql_quotes]
    obtain ⟨limit, offset⟩ := b
    cases limit with
    | none =>
      cases offset with
      | none => rfl
      | some n =>
        have filled := (MySql.filled_tight n.toNat).words
        have digits : "18446744073709551615" = toString (18446744073709551615 : UInt64).toNat := by
          decide
        rw [digits] at filled
        simpa [MySql.limit, MySql.offset, MySql.normal, Bounds.wordsOf] using filled
    | some m =>
      have limited := (limit_tight mySql_quotes m.toNat).words
      cases offset with
      | none => simpa [MySql.limit, MySql.offset, MySql.normal, Bounds.wordsOf] using limited
      | some n =>
        have skipped := (offset_tight mySql_quotes n.toNat).words
        have both := congrArg₂ (· ++ ·) limited skipped
        simpa [MySql.limit, MySql.offset, MySql.normal, Bounds.wordsOf] using both

theorem postgres_quotes : Quotes '"' := ⟨by decide, by decide, by decide, by decide⟩

theorem Postgres.datePart_avoids {banned : List String} {s : String} (part : DatePart)
    (banned_part : banned ⊆ closingWords) (avoids : Avoids '"' banned s) :
    Avoids '"' banned (Postgres.datePart part s) := by
  have word : Avoids '"' closingWords part.keyword := by cases part <;> decide
  have name : Avoids '"' closingWords "extract" := by decide
  have source : Avoids '"' closingWords "from" := by decide
  have cast (type : String) (one : Text.Solitary '"' ("::" ++ type).toList) :
      Avoids '"' banned (s ++ "::" ++ type) := by
    rw [String.append_assoc]
    exact avoids.behind banned_part one (by decide : Sign ':') (by simp)
  have extracted : Avoids '"' banned ("extract(" ++ part.keyword ++ " from " ++ s ++ ")") := by
    have spelled : "extract(" ++ part.keyword ++ " from " ++ s ++ ")" =
        "extract" ++ "(" ++ (part.keyword ++ " " ++ "from" ++ " " ++ s) ++ ")" := by
      simp [← String.toList_inj]
    have inner := ((word.mono banned_part).space postgres_quotes.shown
      (source.mono banned_part)).space postgres_quotes.shown avoids
    rw [spelled]
    exact Avoids.called banned_part postgres_quotes (name.mono banned_part) inner
  cases part with
  | date => exact cast "date" (by decide)
  | time => exact cast "time" (by decide)
  | day => exact extracted
  | month => exact extracted
  | year => exact extracted

/-- A column as a document. -/
theorem Postgres.document_avoids {banned : List String} {s : String}
    (part : banned ⊆ closingWords) (avoids : Avoids '"' banned s) :
    Avoids '"' banned ("(" ++ s ++ ")" ++ "::jsonb") := by
  have type : Text.Solitary '"' "::jsonb".toList := by decide
  have bracketed := Avoids.bracket part postgres_quotes.brackets avoids.1
  exact bracketed.behind part type (by decide : Sign ':') (by decide)

theorem Postgres.jsonContains_avoids {banned : List String} {s : String} (negated : Bool)
    (part : banned ⊆ closingWords) (avoids : Avoids '"' banned s) :
    Avoids '"' banned
      ((Postgres.jsonContains negated s).1 ++ "?" ++ (Postgres.jsonContains negated s).2) := by
  have not : Avoids '"' closingWords "not" := by decide
  have mark : Avoids '"' closingWords "?" := by decide
  have contains : Avoids '"' closingWords "@>" := by decide
  have document := Postgres.document_avoids part avoids
  have whole := (document.space postgres_quotes.shown (contains.mono part)).space
    postgres_quotes.shown (mark.mono part)
  have spelled (lead : String) : lead ++ "(" ++ s ++ ")::jsonb @> " ++ "?" ++ "" =
      lead ++ ("(" ++ s ++ ")" ++ "::jsonb" ++ " " ++ "@>" ++ " " ++ "?") := by
    simp [← String.toList_inj]
  show Avoids '"' banned
    ((if negated then "not " else "") ++ "(" ++ s ++ ")::jsonb @> " ++ "?" ++ "")
  rw [spelled]
  exact Avoids.negated postgres_quotes negated (not.mono part) whole

theorem postgres_legible (tablePrefix : String) : (postgres tablePrefix).Legible where
  positional := rfl
  quotes := postgres_quotes
  comma := (by decide : Text.Solitary '"' ",".toList)
  dot := (by decide : Text.Solitary '"' ".".toList)
  star := (by decide : Text.Solitary '"' "*".toList)
  mark := (by decide : Avoids '"' closingWords "?")
  fixed := (by decide : ∀ s ∈ fixedTexts, Avoids '"' closingWords s)
  boundary := (by decide : ∀ s ∈ boundaryTexts, Balanced '"' s.toList)
  operators := (by decide : ∀ o ∈ Postgres.operators, Avoids '"' closingWords
    (String.ofList (Text.replaceChar '?' ['?', '?'] o.toList)))
  datePart p _ part avoids := Postgres.datePart_avoids p part avoids
  jsonContains negated _ part avoids := Postgres.jsonContains_avoids negated part avoids
  jsonLength {banned} s part avoids := by
    have name : Avoids '"' closingWords "jsonb_array_length" := by decide
    have spelled : "jsonb_array_length((" ++ s ++ ")::jsonb)" =
        "jsonb_array_length" ++ "(" ++ ("(" ++ s ++ ")" ++ "::jsonb") ++ ")" := by
      simp [← String.toList_inj]
    show Avoids '"' banned ("jsonb_array_length((" ++ s ++ ")::jsonb)")
    rw [spelled]
    exact Avoids.called part postgres_quotes (name.mono part) (Postgres.document_avoids part avoids)
  sharedLock := (by decide : Balanced '"' "for share".toList)
  limit b := (Postgres.bounds_numbered b).1.balanced '"' postgres_quotes (by decide)
  offset b := (Postgres.bounds_numbered b).2.balanced '"' postgres_quotes (by decide)

theorem postgres_closes (tablePrefix : String) : (postgres tablePrefix).Closes id where
  toLegible := postgres_legible tablePrefix
  lock := by
    have for_word : Tight '"' "for" ["for"] := .letters postgres_quotes (by decide) (by decide)
    have share_word : Tight '"' "share" ["share"] := .letters postgres_quotes (by decide) (by decide)
    have spelled : "for share" = "for" ++ " " ++ "share" := by decide
    refine ⟨"for", ["share"], by decide, by decide, ?_⟩
    show Tight '"' "for share" _
    rw [spelled]
    exact for_word.space postgres_quotes.shown share_word
  limit_none b none := by
    show Postgres.limit b = ""
    simp [Postgres.limit, none]
  offset_none b none := by
    show Postgres.offset b = ""
    simp [Postgres.offset, none]
  bound_words b := by
    have limit : Text.words '"' (Postgres.limit b) = Bounds.wordsOf "limit" b.limit := by
      cases limited : b.limit with
      | none => simp [Postgres.limit, limited, Bounds.wordsOf]
      | some n =>
        simpa [Postgres.limit, limited, Bounds.wordsOf] using
          (limit_tight postgres_quotes n.toNat).words
    have offset : Text.words '"' (Postgres.offset b) = Bounds.wordsOf "offset" b.offset := by
      cases skipped : b.offset with
      | none => simp [Postgres.offset, skipped, Bounds.wordsOf]
      | some n =>
        simpa [Postgres.offset, skipped, Bounds.wordsOf] using
          (offset_tight postgres_quotes n.toNat).words
    show Text.words '"' (Postgres.limit b) ++ Text.words '"' (Postgres.offset b) =
      b.texts.flatMap (Text.words '"')
    rw [Bounds.words_texts postgres_quotes, limit, offset]

end QueryDialect
end SqlCompose
