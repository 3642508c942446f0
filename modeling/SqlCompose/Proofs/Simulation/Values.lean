import SqlCompose.Dialect.Generic
import SqlCompose.Dialect.MySql
import SqlCompose.Dialect.Postgres
import SqlCompose.Proofs.Simulation.Requests

/-!
# Values stay out of the text

Two queries of one structure that differ in their values alone: both fail, with one error, or both are
written with one text, and their values stand at the same positions. The relation between values is
arbitrary, so it may replace each single value by any other, of another kind or null.
-/
namespace SqlCompose

variable {V : Value → Value → Prop}

/-- Names and trusted SQL are the same, and values are related one by one. -/
def Correspondence.values (V : Value → Value → Prop) : Correspondence where
  column s s' := s' = s
  table s s' := s' = s
  value := V
  expression s s' := s' = s
  clause sql values sql' values' := sql' = sql ∧ List.Forall₂ V values values'

/-- One text, and values that are related position by position. -/
structure SameText (V : Value → Value → Prop) (f f' : Fragment) : Prop where
  text : f'.sql = f.sql
  values : List.Forall₂ V f.bindings f'.bindings

namespace SameText

theorem ofText {s s' : String} (same : s' = s) : SameText V (.ofText s) (.ofText s') :=
  ⟨same, .nil⟩

theorem eq {s s' : String} (related : SameText V (.ofText s) (.ofText s')) : s' = s := related.text

theorem append {f f' g g' : Fragment} (left : SameText V f f') (right : SameText V g g') :
    SameText V (f ++ g) (f' ++ g') :=
  ⟨congrArg₂ (· ++ ·) left.text right.text, List.rel_append left.values right.values⟩

theorem before {f f' : Fragment} (related : SameText V f f') (s : String) :
    SameText V (s ++ f) (s ++ f') := ⟨congrArg (s ++ ·) related.text, related.values⟩

theorem behind {f f' : Fragment} (related : SameText V f f') (s : String) :
    SameText V (f ++ s) (f' ++ s) := ⟨congrArg (· ++ s) related.text, related.values⟩

theorem compatible : Compatible (SameText V) where
  fixed _ := .ofText rfl
  space left right := (left.behind " ").append right
  comma left right := (left.behind ", ").append right
  dot left right := (left.behind ".").append right
  bracket related := (related.before "(").behind ")"
  call left right := left.append ((right.before "(").behind ")")
  trimmed related := ⟨congrArg Text.trim related.text, related.values⟩
  trimmedEnd related := ⟨congrArg Text.trimEnd related.text, related.values⟩
  empty_iff related := by rw [related.text]
  blank_iff related := by rw [related.text]
  star_iff related := by rw [related.eq]
  after left _ right := ⟨right.text, List.rel_append left.values right.values⟩
  before left _ right := ⟨right.text, List.rel_append right.values left.values⟩

end SameText

namespace QueryDialect

/-- Placeholders tell nothing of their values. -/
theorem sameText_simulation {d : QueryDialect} (slots : d.slots = .positional) :
    WriteSimulation d d (.values V) (SameText V) where
  toCompatible := SameText.compatible
  column same := .ofText (by rw [same])
  table same := .ofText (by rw [same])
  operator given := by
    unfold operator
    dsimp only
    split
    · exact .ok (.ofText rfl)
    · exact .error _
  value related := by
    unfold value
    rw [slots]
    exact ⟨rfl, .cons related .nil⟩
  expression same := .ofText same
  clause related := by
    unfold raw
    rw [slots]
    exact ⟨related.1, related.2⟩
  datePart part related := .ofText (by rw [related.eq])
  jsonContains negated right related := by
    rw [related.eq]
    unfold value
    rw [slots]
    exact ⟨rfl, .cons right .nil⟩
  jsonLength related := .ofText (by rw [related.eq])
  bracketsUnions := rfl
  joinedWrites := rfl
  boundary _ := .ofText rfl
  sharedLock := .ofText rfl
  limit _ := .ofText rfl
  offset _ := .ofText rfl
  tableAlias same := .ofText (by rw [same])
  unionName := .ofText rfl
  existsName := .ofText rfl
  name := rfl
  insertIgnore := rfl
  returnsKey := rfl
  upserts := rfl
  inserting _ := .ofText rfl
  idName := .ofText rfl
  truncate related := .ofText (by rw [related.eq])

/-- Requests that differ in their values alone are written as the same texts, with their values in
one order, or fail with one error. -/
theorem values_outside_text {d : QueryDialect} (slots : d.slots = .positional)
    (V : Value → Value → Prop) {r r' : Request} (related : (Correspondence.values V).Requests r r') :
    Outcome (List.Forall₂ (SameText V)) (d.write r) (d.write r') :=
  (sameText_simulation slots).write related

/-- A value in a join and in trusted SQL, and a document in a nested condition. -/
def valuedQuery (v : Value) (document : Json) : Query where
  table := some (.name "a")
  joins := [⟨.inner, .name "b", [⟨.and, .compare (.name "b.n") ">" (.value v)⟩]⟩]
  conditions := [⟨.and, .nested [
    ⟨.and, .jsonContains true (.name "a.doc") document⟩, ⟨.or, .raw ⟨"a.k < ?"⟩ [v]⟩]⟩]

theorem valuedQuery_related {v v' : Value} {document document' : Json} (value : V v v')
    (contained : V (.json document) (.json document')) :
    (Correspondence.values V).Queries (valuedQuery v document) (valuedQuery v' document') := by
  have parts : (Correspondence.values V).Parts (valuedQuery v document)
      (valuedQuery v' document') := by
    constructor
    case table => exact .some (.name rfl)
    all_goals constructor
  have join : (Correspondence.values V).Predicates (.compare (.name "b.n") ">" (.value v))
      (.compare (.name "b.n") ">" (.value v')) := .compare (.name rfl) (.value value)
  have document : (Correspondence.values V).Predicates (.jsonContains true (.name "a.doc") document)
      (.jsonContains true (.name "a.doc") document') := .jsonContains (.name rfl) contained
  have clause : (Correspondence.values V).Predicates (.raw ⟨"a.k < ?"⟩ [v])
      (.raw ⟨"a.k < ?"⟩ [v']) := .raw ⟨rfl, .cons value .nil⟩
  exact .mk parts (.cons (.name rfl) (.cons join .nil) .nil)
    (.cons (.nested (.cons document (.cons clause .nil))) .nil) .nil

theorem values_outside_text_valuedQuery :
    ((mySql "").write (.update (valuedQuery (.int 1) (.bool true)) (.ofList [("c", .value (.int 2))]))
      ).toOption.map (·.map Fragment.sql) = some [
        "update `a` inner join `b` on `b`.`n` > ? set `c` = ? " ++
        "where (not json_contains(`a`.`doc`, ?) or a.k < ?)"] ∧
    Outcome (List.Forall₂ (SameText fun _ v' => v' = .null ∨ v' = .json .null))
      ((mySql "").write (.update (valuedQuery (.int 1) (.bool true))
        (.ofList [("c", .value (.int 2))])))
      ((mySql "").write (.update (valuedQuery .null .null) (.ofList [("c", .value .null)]))) := by
  refine ⟨by decide, values_outside_text rfl _ ?_⟩
  exact .update (valuedQuery_related (.inl rfl) (.inr rfl)) (.cons ⟨rfl, .value (.inl rfl)⟩ .nil)

end QueryDialect
end SqlCompose
