import SqlCompose.Dialect.MySql
import SqlCompose.Dialect.Postgres
import SqlCompose.Proofs.Congruence.Select
import SqlCompose.Proofs.Unions.Avoiding
import SqlCompose.Text.Digits

/-!
# Legible dialects

What a dialect brings to a clause is balanced and avoids the words that close a select. Every clause
without trusted SQL then avoids them too, and every query is balanced.
-/
namespace SqlCompose

open Text (Balanced Solitary)

/-- One fragment, whose text has the property. -/
def Throughout (P : String → Prop) (f f' : Fragment) : Prop := f' = f ∧ P f.sql

theorem Throughout.text {P : String → Prop} {s s' : String}
    (h : Throughout P (.ofText s) (.ofText s')) : s' = s ∧ P s :=
  ⟨congrArg Fragment.sql h.1, h.2⟩

namespace QueryDialect

/-- What a dialect writes in clauses can be told from what closes a select. -/
structure Legible (d : QueryDialect) : Prop where
  positional : d.slots = .positional
  quotes : Quotes d.quoter.quote
  comma : Solitary d.quoter.quote ",".toList
  dot : Solitary d.quoter.quote ".".toList
  star : Solitary d.quoter.quote "*".toList
  mark : Avoids d.quoter.quote closingWords "?"
  fixed : ∀ s ∈ fixedTexts, Avoids d.quoter.quote closingWords s
  boundary : ∀ s ∈ boundaryTexts, Balanced d.quoter.quote s.toList
  operators : ∀ o ∈ d.operators, Avoids d.quoter.quote closingWords
    (String.ofList (Text.replaceChar '?' ['?', '?'] o.toList))
  datePart {banned : List String} (part : DatePart) (s : String) : banned ⊆ closingWords →
    Avoids d.quoter.quote banned s → Avoids d.quoter.quote banned (d.datePart part s)
  jsonContains {banned : List String} (negated : Bool) (s : String) : banned ⊆ closingWords →
    Avoids d.quoter.quote banned s → Avoids d.quoter.quote banned
      ((d.jsonContains negated s).1 ++ "?" ++ (d.jsonContains negated s).2)
  jsonLength {banned : List String} (s : String) : banned ⊆ closingWords →
    Avoids d.quoter.quote banned s → Avoids d.quoter.quote banned (d.jsonLength s)
  sharedLock : Balanced d.quoter.quote d.sharedLock.toList
  limit (b : Bounds) : Balanced d.quoter.quote (d.limit b).toList
  offset (b : Bounds) : Balanced d.quoter.quote (d.offset b).toList

namespace Legible

variable {d : QueryDialect} (h : d.Legible) {banned : List String}

include h

theorem compatible (part : banned ⊆ closingWords) :
    Compatible (Throughout (Avoids d.quoter.quote banned)) where
  fixed known := ⟨rfl, (h.fixed _ known).mono part⟩
  space := by
    rintro f _ g _ ⟨rfl, left⟩ ⟨rfl, right⟩
    exact ⟨rfl, left.space h.quotes.shown right⟩
  comma := by
    rintro _ f _ g ⟨rfl, left⟩ ⟨rfl, right⟩
    have spelled : (f ++ ", " ++ g).sql = f.sql ++ "," ++ " " ++ g.sql := by
      simp [← String.toList_inj]
    refine ⟨rfl, ?_⟩
    rw [spelled]
    exact (left.behind part h.comma (by decide : Sign ',') (by decide)).space h.quotes.shown right
  dot := by
    rintro f _ g _ ⟨rfl, left⟩ ⟨rfl, right⟩
    exact ⟨rfl, left.glued part h.dot (by decide : Sign '.') (by decide) right⟩
  bracket := by
    rintro f _ ⟨rfl, inner⟩
    exact ⟨rfl, .bracket part h.quotes.brackets inner.1⟩
  call := by
    rintro f _ g _ ⟨rfl, left⟩ ⟨rfl, right⟩
    exact ⟨rfl, left.call part h.quotes.brackets right.1⟩
  trimmed := by
    rintro f _ ⟨rfl, inner⟩
    exact ⟨rfl, inner.trim h.quotes.shown⟩
  trimmedEnd := by
    rintro f _ ⟨rfl, inner⟩
    exact ⟨rfl, inner.trimEnd h.quotes.shown⟩
  empty_iff := by
    rintro f _ ⟨rfl, _⟩
    rfl
  blank_iff := by
    rintro f _ ⟨rfl, _⟩
    rfl
  star_iff := by
    intro s s' related
    rw [related.text.1]
  after := by
    rintro f _ g _ ⟨rfl, _⟩ _ ⟨rfl, right⟩
    exact ⟨rfl, right⟩
  before := by
    rintro f _ g _ ⟨rfl, _⟩ _ ⟨rfl, right⟩
    exact ⟨rfl, right⟩

/-- The property goes through every clause without trusted SQL. -/
theorem clauses (part : banned ⊆ closingWords) :
    ClauseCongruence d d .none (Throughout (Avoids d.quoter.quote banned)) where
  toCompatible := h.compatible part
  tablePrefix := rfl
  part s := by
    refine ⟨rfl, ?_⟩
    show Avoids _ _ (if s = "*" then s else _)
    split
    · next star =>
      rw [star]
      exact (h.fixed _ (by decide)).mono part
    · exact .quoted part h.quotes.shown h.quotes.sign s
  operator given := by
    unfold QueryDialect.operator
    dsimp only
    split
    · next known => exact .ok ⟨rfl, (h.operators _ known).mono part⟩
    · exact .error _
  value v := by
    refine ⟨rfl, ?_⟩
    rw [show (d.value v).sql = "?" by rw [QueryDialect.value, h.positional]; rfl]
    exact h.mark.mono part
  expression allowed := allowed.elim
  clause allowed := allowed.elim
  datePart p related := by
    obtain ⟨rfl, avoids⟩ := related.text
    exact ⟨rfl, h.datePart p _ part avoids⟩
  jsonContains negated v related := by
    obtain ⟨rfl, avoids⟩ := related.text
    refine ⟨rfl, ?_⟩
    rw [Fragment.sql_append_text, Fragment.sql_text_append,
      show (d.value v).sql = "?" by rw [QueryDialect.value, h.positional]; rfl]
    exact h.jsonContains negated _ part avoids
  jsonLength related := by
    obtain ⟨rfl, avoids⟩ := related.text
    exact ⟨rfl, h.jsonLength _ part avoids⟩

omit h in
theorem balanced_iff {quote : Char} {s : String} :
    Avoids quote [] s ↔ Balanced quote s.toList :=
  ⟨And.left, fun balanced => ⟨balanced, fun _ _ => by simp⟩⟩

/-- Being balanced goes through whole queries. -/
theorem queries : Congruence d d .none (Throughout (Avoids d.quoter.quote [])) where
  toClauseCongruence := h.clauses (List.nil_subset _)
  bracketsUnions := rfl
  joinedWrites := rfl
  boundary known := ⟨rfl, balanced_iff.mpr (h.boundary _ known)⟩
  sharedLock := ⟨rfl, balanced_iff.mpr h.sharedLock⟩
  limit b := ⟨rfl, balanced_iff.mpr (h.limit b)⟩
  offset b := ⟨rfl, balanced_iff.mpr (h.offset b)⟩

theorem balanced_select {q : Query} {f : Fragment} (plain : q.Obeys .none)
    (written : d.select q = .ok f) : Balanced d.quoter.quote f.sql.toList := by
  have whole := h.queries.select plain
  rw [written] at whole
  obtain ⟨_, _, _, balanced⟩ := whole.of_ok
  exact balanced.1

end Legible
end QueryDialect
end SqlCompose
